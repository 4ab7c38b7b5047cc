import AudioLink.Error
import AudioLink.Wire.Device
import AudioLink.Wire.Header

/-!
# Header sources

The fields of an outbound header come from a companion of the engine, which is asked once per
packet and shown every inbound header. The default one only stamps a wrapping counter. A scripted
one answers by the number of times it has been asked, and a responsive one by everything that the
audio side of its engine has been told and asked before.
-/

namespace AudioLink

/-- Something that the audio side of an engine is told or asked. -/
inductive Cue where
  | connection (peer : Option Device)
  | block (block : Bytes)
  | header (header : Header)
  | demand
  | stamp (given : Header)

/-- Stamps a wrapping counter and remembers the last inbound header. -/
structure CounterStream where
  next : UInt16
  lastReceived : Option Header
  deriving DecidableEq

namespace CounterStream

def initial : CounterStream := ⟨0, none⟩

/-- Puts the next counter into a header. -/
def stamp (header : Header) (stream : CounterStream) : Header × CounterStream :=
  ({ header with counter := stream.next }, { stream with next := stream.next + 1 })

def receive (header : Header) (stream : CounterStream) : CounterStream :=
  { stream with lastReceived := some header }

end CounterStream

/-- Where the headers of outbound packets come from. -/
inductive HeaderSource where
  | counter (stream : CounterStream)
  /-- The n-th question gets the n-th answer, where no header means that none is ready. -/
  | scripted (answer : Nat → Option Header) (asked : Nat)
  /-- The answer depends on all earlier cues, the latest first, and on the header to fill in. -/
  | responsive (answer : List Cue → Header → Except StreamError Header) (heard : List Cue)

namespace HeaderSource

/-- Asks for the next header, given the one to fill in. -/
def process (header : Header) : HeaderSource → Except StreamError Header × HeaderSource
  | counter stream =>
    let stamped := stream.stamp header
    (.ok stamped.1, counter stamped.2)
  | scripted answer asked =>
    (match answer asked with
      | some header => .ok header
      | none => .error .notReady,
      scripted answer (asked + 1))
  | responsive answer heard => (answer heard header, responsive answer heard)

/-- Takes note of a cue; a counter only remembers inbound headers. -/
def hear (cue : Cue) : HeaderSource → HeaderSource
  | counter stream =>
    match cue with
    | .header header => counter (stream.receive header)
    | _ => counter stream
  | scripted answer asked => scripted answer asked
  | responsive answer heard => responsive answer (cue :: heard)

end HeaderSource

end AudioLink
