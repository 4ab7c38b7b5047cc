/-!
# TOML values

The values of a document and the rules by which its tables grow. Every table remembers how it came
into being, since that decides who may add to it: a table with a header of its own is closed to
dotted keys, a table made by dotted keys is closed to headers, and an inline table is closed to
both.

Dates, times and floats are only recognised; their values are not kept.
-/

namespace AudioLink.Toml

/-- How a table came into being. -/
inductive TableKind where
  /-- By a header of its own, or as the document itself. -/
  | defined
  | implied
  | dotted
  | inlined
  deriving DecidableEq

/-- A value. -/
inductive Value where
  | string (text : String)
  | integer (value : Int)
  | float
  | boolean (value : Bool)
  /-- A date, a time, or both. -/
  | moment
  | array (items : List Value)
  | table (kind : TableKind) (entries : List (String × Value))
  /-- Tables that share one header, by their entries. -/
  | tables (items : List (List (String × Value)))

/-- A table, with its entries in the order of their keys' first appearance. -/
structure Table where
  kind : TableKind
  entries : List (String × Value)

namespace Table

/-- The document before its first line. -/
def root : Table := ⟨.defined, []⟩

def toValue (table : Table) : Value := .table table.kind table.entries

def get? (key : String) (table : Table) : Option Value := table.entries.lookup key

/-- Sets the value of a key, which keeps its place if it has one. -/
def put (key : String) (value : Value) (table : Table) : Table :=
  if (table.get? key).isSome then
    { table with
      entries := table.entries.map fun entry => if entry.1 = key then (key, value) else entry }
  else { table with entries := table.entries ++ [(key, value)] }

/-- Changes the table at the end of a path. Missing tables are made on the way; among tables that
share a header the last one counts. Dotted keys do not lead into a table with a header of its own,
and nothing leads into an inline table or a plain value. -/
def descend (dotted : Bool) (change : Table → Option Table) : List String → Table → Option Table
  | [], table => change table
  | key :: path, table =>
    match table.get? key with
    | none =>
      (descend dotted change path ⟨if dotted then .dotted else .implied, []⟩).map fun child =>
        table.put key child.toValue
    | some (.table kind entries) =>
      if kind = .inlined ∨ (dotted ∧ kind = .defined) then none
      else
        (descend dotted change path ⟨kind, entries⟩).map fun child =>
          table.put key child.toValue
    | some (.tables items) =>
      match items.getLast? with
      | none => none
      | some last =>
        (descend dotted change path ⟨.defined, last⟩).map fun child =>
          table.put key (.tables (items.dropLast ++ [child.entries]))
    | some _ => none

/-- Adds a value under a dotted key, given as the path to its table and its last part. A key is
never set twice, and only dotted keys add to a table that dotted keys made. -/
def insert (path : List String) (key : String) (value : Value) (table : Table) : Option Table :=
  table.descend true
    (fun target =>
      if (target.kind = .dotted) = path.isEmpty then none
      else if (target.get? key).isSome then none
      else some (target.put key value))
    path

/-- Opens a table by its header. It may so far only have been the parent of others. -/
def openTable (path : List String) (key : String) (table : Table) : Option Table :=
  table.descend false
    (fun parent =>
      match parent.get? key with
      | none => some (parent.put key (.table .defined []))
      | some (.table .implied entries) => some (parent.put key (.table .defined entries))
      | some _ => none)
    path

/-- Opens one more of the tables that share a header. -/
def openElement (path : List String) (key : String) (table : Table) : Option Table :=
  table.descend false
    (fun parent =>
      match parent.get? key with
      | none => some (parent.put key (.tables [[]]))
      | some (.tables items) => some (parent.put key (.tables (items ++ [[]])))
      | some _ => none)
    path

/-- Adds a value to the table that was opened last. -/
def insertAt (opened path : List String) (key : String) (value : Value) (table : Table) :
    Option Table :=
  table.descend false (insert path key value) opened

end Table

end AudioLink.Toml
