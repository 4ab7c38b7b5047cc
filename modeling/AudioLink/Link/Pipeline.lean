import AudioLink.Link.HeaderSource
import AudioLink.Sample.Tone

/-!
# Pipelines

What stands on the audio side of an engine: where the blocks of outbound packets come from, the
source of their headers, and which callbacks are installed. Both sources hear every cue, so that
what is received can decide what is sent.
-/

namespace AudioLink

/-- Which callbacks are installed. -/
structure Callbacks where
  connection : Bool
  received : Bool
  needed : Bool
  deriving DecidableEq

namespace Callbacks

private def flag (value : Bool) : String := if value then "true" else "false"

/-- One line that says which callbacks are installed. -/
def describe (callbacks : Callbacks) : String :=
  "Callbacks \x7b connection: " ++ flag callbacks.connection ++ ", samples_received: " ++
    flag callbacks.received ++ ", samples_needed: " ++ flag callbacks.needed ++ " \x7d"

end Callbacks

/-- Where the blocks of outbound packets come from. -/
inductive Supply where
  /-- The n-th question gets the n-th answer. -/
  | scripted (answer : Nat → Option Bytes) (asked : Nat)
  | tone (generator : Tone)
  /-- The answer depends on all earlier cues, the latest first. -/
  | responsive (answer : List Cue → Option Bytes) (heard : List Cue)

namespace Supply

def silent : Supply := scripted (fun _ => none) 0

def next : Supply → Option Bytes × Supply
  | scripted answer asked => (answer asked, scripted answer (asked + 1))
  | tone generator =>
    let made := generator.nextBlock
    (some made.1, tone made.2)
  | responsive answer heard => (answer heard, responsive answer heard)

def hear (cue : Cue) : Supply → Supply
  | responsive answer heard => responsive answer (cue :: heard)
  | supply => supply

end Supply

/-- The audio side of an engine. -/
structure Pipeline where
  supply : Supply
  source : HeaderSource

namespace Pipeline

def hear (cue : Cue) (pipeline : Pipeline) : Pipeline :=
  ⟨pipeline.supply.hear cue, pipeline.source.hear cue⟩

/-- Announces a connected peer, or that there is none. -/
def announce (peer : Option Device) (pipeline : Pipeline) : Pipeline :=
  pipeline.hear (.connection peer)

def deliver (block : Bytes) (pipeline : Pipeline) : Pipeline := pipeline.hear (.block block)

def ask (pipeline : Pipeline) : Option Bytes × Pipeline :=
  let asked := pipeline.supply.next
  (asked.1, { pipeline with supply := asked.2 }.hear .demand)

def process (header : Header) (pipeline : Pipeline) : Except StreamError Header × Pipeline :=
  let processed := pipeline.source.process header
  (processed.1, { pipeline with source := processed.2 }.hear (.stamp header))

def receive (header : Header) (pipeline : Pipeline) : Pipeline := pipeline.hear (.header header)

end Pipeline

end AudioLink
