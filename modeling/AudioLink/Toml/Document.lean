import AudioLink.Toml.Moment
import AudioLink.Toml.Number
import AudioLink.Toml.Text
import AudioLink.Toml.Value

/-!
# TOML documents

A document is a list of lines, each of which is empty, opens a table, or gives a value to a key in
the table opened last. Values can hold others; neither that nor the parts of a dotted key go deeper
than 79.
-/

namespace AudioLink.Toml

/-- How deep arrays and inline tables nest, and how many parts a key has, at most. -/
def maxDepth : Nat := 79

/-- One part of a key. -/
def keyPart? (cs : List Char) : Option (String × List Char) :=
  match cs with
  | c :: _ =>
    if c = '"' ∨ c = '\'' then lineString? cs
    else if isKeyChar c then
      some (String.ofList (cs.takeWhile isKeyChar), cs.dropWhile isKeyChar)
    else none
  | [] => none

/-- The parts of a key, with blanks around each of them. -/
def keyParts? : Nat → List Char → Option (List String × List Char)
  | 0, _ => none
  | fuel + 1, cs =>
    match keyPart? (skipBlanks cs) with
    | none => none
    | some (part, rest) =>
      match skipBlanks rest with
      | '.' :: rest => (keyParts? fuel rest).map fun more => (part :: more.1, more.2)
      | rest => some ([part], rest)

/-- A key: the path to its table and its last part. -/
def key? (cs : List Char) : Option ((List String × String) × List Char) :=
  match keyParts? maxDepth cs with
  | none => none
  | some (parts, rest) => parts.getLast?.map fun last => ((parts.dropLast, last), rest)

private def number? (cs : List Char) : Option (Value × List Char) :=
  match moment? cs with
  | some rest => some (.moment, rest)
  | none =>
    match float? cs with
    | some rest => some (.float, rest)
    | none => (integer? cs).map fun r => (.integer r.1, r.2)

/-- A value that holds no others. -/
def scalar? (cs : List Char) : Option (Value × List Char) :=
  match cs with
  | '"' :: _ | '\'' :: _ => (string? cs).map fun r => (.string r.1, r.2)
  | 't' :: _ => (keyword? "true" cs).map fun rest => (.boolean true, rest)
  | 'f' :: _ => (keyword? "false" cs).map fun rest => (.boolean false, rest)
  | 'i' :: _ | 'n' :: _ => (float? cs).map fun rest => (.float, rest)
  | c :: _ => if c = '+' ∨ c = '-' ∨ isDigit c then number? cs else none
  | [] => none

mutual

/-- A value, in which at most `depth` more arrays and inline tables nest. -/
def value? (fuel depth : Nat) (cs : List Char) : Option (Value × List Char) :=
  match fuel with
  | 0 => none
  | fuel + 1 =>
    match cs, depth with
    | '[' :: _, 0 | '{' :: _, 0 => none
    | '[' :: rest, depth + 1 => elements? fuel depth [] rest
    | '{' :: rest, depth + 1 =>
      match skipBlanks rest with
      | '}' :: rest => some (.table .inlined [], rest)
      | rest => pairs? fuel depth ⟨.inlined, []⟩ rest
    | cs, _ => scalar? cs

/-- The rest of an array, given the elements read so far, the latest first. -/
def elements? (fuel depth : Nat) (read : List Value) (cs : List Char) :
    Option (Value × List Char) :=
  match fuel with
  | 0 => none
  | fuel + 1 =>
    match skipSpace false cs with
    | ']' :: rest => some (.array read.reverse, rest)
    | cs =>
      match value? fuel depth cs with
      | none => none
      | some (value, rest) =>
        match skipSpace false rest with
        | ']' :: rest => some (.array (value :: read).reverse, rest)
        | ',' :: rest => elements? fuel depth (value :: read) rest
        | _ => none

/-- The rest of an inline table, which has at least one more entry. -/
def pairs? (fuel depth : Nat) (table : Table) (cs : List Char) : Option (Value × List Char) :=
  match fuel with
  | 0 => none
  | fuel + 1 =>
    match key? cs with
    | some ((path, key), '=' :: rest) =>
      match value? fuel depth (skipBlanks rest) with
      | none => none
      | some (value, rest) =>
        match table.insert path key value with
        | none => none
        | some table =>
          match skipBlanks rest with
          | '}' :: rest => some (table.toValue, rest)
          | ',' :: rest => pairs? fuel depth table rest
          | _ => none
    | _ => none

end

/-- A document so far: its root table, and the table opened last by its path. -/
structure Draft where
  root : Table
  opened : List String

private def assignment? (fuel : Nat) (draft : Draft) (cs : List Char) :
    Option (Draft × List Char) :=
  match key? cs with
  | some ((path, key), '=' :: rest) =>
    match value? fuel maxDepth (skipBlanks rest) with
    | none => none
    | some (value, rest) =>
      match draft.root.insertAt draft.opened path key value, lineEnd? rest with
      | some root, some rest => some ({ draft with root }, rest)
      | _, _ => none
  | _ => none

private def elementHeader? (draft : Draft) (cs : List Char) : Option (Draft × List Char) :=
  match key? cs with
  | some ((path, key), ']' :: ']' :: rest) =>
    match draft.root.openElement path key, lineEnd? rest with
    | some root, some rest => some (⟨root, path ++ [key]⟩, rest)
    | _, _ => none
  | _ => none

private def header? (draft : Draft) (cs : List Char) : Option (Draft × List Char) :=
  match key? cs with
  | some ((path, key), ']' :: rest) =>
    match draft.root.openTable path key, lineEnd? rest with
    | some root, some rest => some (⟨root, path ++ [key]⟩, rest)
    | _, _ => none
  | _ => none

private def line? (fuel : Nat) (draft : Draft) (cs : List Char) : Option (Draft × List Char) :=
  match cs with
  | '[' :: '[' :: rest => elementHeader? draft rest
  | '[' :: rest => header? draft rest
  | cs => assignment? fuel draft cs

/-- All remaining lines, of which there are at most `count`, with values of at most `fuel` steps. -/
def lines? (fuel : Nat) : Nat → Draft → List Char → Option Table
  | 0, _, _ => none
  | count + 1, draft, cs =>
    match skipBlanks cs with
    | [] => some draft.root
    | cs =>
      match lineEnd? cs with
      | some rest => lines? fuel count draft rest
      | none =>
        match line? fuel draft cs with
        | some (draft, rest) => lines? fuel count draft rest
        | none => none

def document? (text : String) : Option Table :=
  let cs :=
    match text.toList with
    | '\ufeff' :: rest => rest
    | cs => cs
  let size := cs.length
  lines? (4 * size + 4) (size + 1) ⟨.root, []⟩ cs

end AudioLink.Toml
