import AudioLink.Toml.Lexical

/-!
# TOML strings

A string stands between single or double marks, one for a line or three for several lines. Double
marks allow escapes. Over several lines, a newline directly after the opening marks is dropped, a
backslash at the end of a line swallows all space up to the next character, and one or two marks
count as text.
-/

namespace AudioLink.Toml

/-- The kind of a string. -/
structure Quoting where
  mark : Char
  /-- Whether the string can run over several lines. -/
  multiline : Bool
  deriving DecidableEq

/-- Where a reader of strings stands. -/
inductive Scan where
  | body
  /-- After so many marks in a row, over several lines. -/
  | marks (count : Nat)
  /-- After a carriage return, which a line feed must follow; afterwards space is skipped or not. -/
  | carriage (skipping : Bool)
  | escape
  /-- After a backslash and blanks, which must lead to the end of the line. -/
  | trailing
  /-- After a backslash at the end of a line. -/
  | skipping
  | code (left value : Nat)
  deriving DecidableEq

namespace Scan

/-- One character of text: where it leads, and what it adds, the latest first. -/
def text (quoting : Quoting) (c : Char) : Option (Scan × List Char) :=
  if c = '\\' ∧ quoting.mark = '"' then some (escape, [])
  else if quoting.multiline ∧ c = '\n' then some (body, ['\n'])
  else if quoting.multiline ∧ c = '\r' then some (carriage false, [])
  else if isPlain c then some (body, [c])
  else none

def escaped (quoting : Quoting) (c : Char) : Option (Scan × List Char) :=
  match c with
  | 'b' => some (body, [Char.ofNat 8])
  | 't' => some (body, ['\t'])
  | 'n' => some (body, ['\n'])
  | 'f' => some (body, [Char.ofNat 12])
  | 'r' => some (body, ['\r'])
  | '"' => some (body, ['"'])
  | '\\' => some (body, ['\\'])
  | 'u' => some (code 4 0, [])
  | 'U' => some (code 8 0, [])
  | '\n' => if quoting.multiline then some (skipping, []) else none
  | '\r' => if quoting.multiline then some (carriage true, []) else none
  | c => if quoting.multiline ∧ isBlank c then some (trailing, []) else none

/-- One digit of the number of a character; surrogates and numbers beyond the last character are
refused. -/
def digit (left value : Nat) (c : Char) : Option (Scan × List Char) :=
  match Hex.value? c with
  | none => none
  | some d =>
    let value := 16 * value + d
    if left = 1 then
      if h : value.isValidChar then some (body, [Char.ofNatAux value h]) else none
    else some (code (left - 1) value, [])

/-- One character that is no mark in the text of a string. -/
def next (quoting : Quoting) (c : Char) : Scan → Option (Scan × List Char)
  | body => text quoting c
  | marks count =>
    (text quoting c).map fun r => (r.1, r.2 ++ List.replicate count quoting.mark)
  | carriage skip =>
    if c = '\n' then some (if skip then (skipping, []) else (body, ['\n'])) else none
  | escape => escaped quoting c
  | trailing =>
    if isBlank c then some (trailing, [])
    else if c = '\n' then some (skipping, [])
    else if c = '\r' then some (carriage true, [])
    else none
  | skipping =>
    if isBlank c ∨ c = '\n' then some (skipping, [])
    else if c = '\r' then some (carriage true, [])
    else text quoting c
  | code left value => digit left value c

/-- Whether a mark at this place would be a mark of the string. -/
def takesMark : Scan → Bool
  | body | marks _ | skipping => true
  | _ => false

end Scan

/-- Reads to the end of a string; `read` holds its text so far, the latest first. -/
def scanString (quoting : Quoting) (scan : Scan) (read : List Char) :
    List Char → Option (List Char × List Char)
  | [] =>
    match scan with
    | .marks count =>
      if 3 ≤ count then some (List.replicate (count - 3) quoting.mark ++ read, []) else none
    | _ => none
  | c :: rest =>
    if c = quoting.mark ∧ scan.takesMark then
      if quoting.multiline then
        match scan with
        | .marks 4 => some (quoting.mark :: quoting.mark :: read, rest)
        | .marks count => scanString quoting (.marks (count + 1)) read rest
        | _ => scanString quoting (.marks 1) read rest
      else some (read, rest)
    else
      match scan with
      | .marks (count + 3) =>
        some (List.replicate count quoting.mark ++ read, c :: rest)
      | _ =>
        match scan.next quoting c with
        | none => none
        | some (scan, added) => scanString quoting scan (added ++ read) rest

private def finish (scanned : Option (List Char × List Char)) : Option (String × List Char) :=
  scanned.map fun r => (String.ofList r.1.reverse, r.2)

private def dropNewline (cs : List Char) : List Char := (newline? cs).getD cs

/-- A string on one line. -/
def lineString? : List Char → Option (String × List Char)
  | '"' :: rest => finish (scanString ⟨'"', false⟩ .body [] rest)
  | '\'' :: rest => finish (scanString ⟨'\'', false⟩ .body [] rest)
  | _ => none

/-- A string of any kind. -/
def string? : List Char → Option (String × List Char)
  | '"' :: '"' :: '"' :: rest => finish (scanString ⟨'"', true⟩ .body [] (dropNewline rest))
  | '\'' :: '\'' :: '\'' :: rest => finish (scanString ⟨'\'', true⟩ .body [] (dropNewline rest))
  | cs => lineString? cs

end AudioLink.Toml
