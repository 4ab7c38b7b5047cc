import AudioLink.Config.Basic
import AudioLink.Toml.Document
import AudioLink.Toml.Writer

/-!
# Configuration texts

A configuration is written as a TOML document with one table per section. When it is read, a
section can also be an array of its fields in order; fields that are missing keep their standard
values and unknown ones do not matter.
-/

namespace AudioLink

open Toml (Value)

/-- Where the fields of a section come from. -/
inductive SectionSource where
  | named (entries : List (String × Value))
  | listed (items : List Value)

namespace SectionSource

/-- A section can be a table or an array. A date counts as a table without any known field. -/
def ofValue? : Value → Option SectionSource
  | .table _ entries => some (named entries)
  | .array items => some (listed items)
  | .tables items => some (listed (items.map (Value.table .defined)))
  | .moment => some (named [])
  | _ => none

/-- The value of the field with this name and position. -/
def field? (name : String) (position : Nat) : SectionSource → Option Value
  | named entries => entries.lookup name
  | listed items => items[position]?

/-- Reads a field; a missing one has its standard value. -/
def read? {α : Type} (name : String) (position : Nat) (standard : α) (read : Value → Option α)
    (source : SectionSource) : Option α :=
  match source.field? name position with
  | none => some standard
  | some value => read value

end SectionSource

namespace Config

def text? : Value → Option String
  | .string text => some text
  | _ => none

def word16? : Value → Option UInt16
  | .integer n => if 0 ≤ n ∧ n < 65536 then some (UInt16.ofNat n.toNat) else none
  | _ => none

def word64? : Value → Option UInt64
  | .integer n => if 0 ≤ n then some (UInt64.ofNat n.toNat) else none
  | _ => none

/-- Whether a value holds nothing at all. -/
def isHollow : Value → Bool
  | .table _ entries => entries.isEmpty
  | .array items => items.isEmpty
  | .tables items => items.isEmpty
  | _ => false

/-- A role is its name, as a string or as the only key of a table with nothing behind it. -/
def role? : Value → Option Role
  | .string text => Role.ofName? text
  | .table _ [(name, value)] => if isHollow value then Role.ofName? name else none
  | _ => none

def engineSection? (value : Value) : Option EngineSection := do
  let source ← SectionSource.ofValue? value
  let standard := standard.engine
  return {
    role := ← source.read? "role" 0 standard.role role?
    inChannels := ← source.read? "in_channels" 1 standard.inChannels word16?
    outChannels := ← source.read? "out_channels" 2 standard.outChannels word16?
    mac := ← source.read? "mac" 3 standard.mac text? }

def timingSection? (value : Value) : Option TimingSection := do
  let source ← SectionSource.ofValue? value
  let standard := standard.timing
  return {
    checkInterval := ← source.read? "check_interval_ms" 0 standard.checkInterval word64?
    disconnectTimeout :=
      ← source.read? "disconnect_timeout_ms" 1 standard.disconnectTimeout word64? }

def loggingSection? (value : Value) : Option LoggingSection := do
  let source ← SectionSource.ofValue? value
  return { filter := ← source.read? "filter" 0 standard.logging.filter text? }

/-- The configuration in a document. -/
def ofTable? (table : Toml.Table) : Option Config := do
  let source := SectionSource.named table.entries
  return {
    engine := ← source.read? "engine" 0 standard.engine engineSection?
    timing := ← source.read? "timing" 1 standard.timing timingSection?
    logging := ← source.read? "logging" 2 standard.logging loggingSection? }

/-- Reads and checks a configuration. -/
def parse (text : String) : Except ConfigError Config :=
  match (Toml.document? text).bind ofTable? with
  | none => .error .unparsable
  | some config =>
    match config.fault? with
    | some fault => .error fault
    | none => .ok config

private def assignment (name value : String) : String := name ++ " = " ++ value ++ "\n"

/-- The document of a configuration. -/
def render (config : Config) : String :=
  "[engine]\n" ++
  assignment "role" (Toml.quoted config.engine.role.name) ++
  assignment "in_channels" (toString config.engine.inChannels.toNat) ++
  assignment "out_channels" (toString config.engine.outChannels.toNat) ++
  assignment "mac" (Toml.quoted config.engine.mac) ++
  "\n[timing]\n" ++
  assignment "check_interval_ms" (toString config.timing.checkInterval.toNat) ++
  assignment "disconnect_timeout_ms" (toString config.timing.disconnectTimeout.toNat) ++
  "\n[logging]\n" ++
  assignment "filter" (Toml.quoted config.logging.filter)

end Config

end AudioLink
