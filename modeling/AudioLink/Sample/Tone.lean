import AudioLink.Sample.Level

/-!
# Tones

A sine generator that fills one sample block per call. Every channel carries the same tone, so a
sample frame is one packed sample, once per channel.
-/

namespace AudioLink

/-- A sine generator. -/
structure Tone where
  layout : Layout
  /-- In hertz. -/
  frequency : Float32
  /-- Between 0 and 1. -/
  amplitude : Float32
  phase : Float32

namespace Tone

def defaultFrequency : Float32 := 1000

/-- The ratio of a circle's circumference to its radius, in single precision. -/
def turn : Float32 := Float32.ofBits 0x40c90fdb

/-- What is left of a number without its whole part; the sign stays. -/
def fraction (x : Float32) : Float32 := x - (if x < 0 then x.ceil else x.floor)

def create (layout : Layout) (frequency amplitude : Float32) : Tone :=
  ⟨layout, frequency, clampFloat 0 1 amplitude, 0⟩

/-- The sample at the current phase. -/
def sample (tone : Tone) : Int :=
  Pcm.ofLevel ((tone.phase * turn).sin * tone.amplitude)

def frame (tone : Tone) : Bytes :=
  (List.replicate tone.layout.channels.toNat (Pcm.pack tone.sample)).flatten

def advance (tone : Tone) : Tone :=
  { tone with phase := fraction (tone.phase + tone.frequency / 48000) }

/-- The next `count` sample frames. -/
def frames : Nat → Tone → List Bytes × Tone
  | 0, tone => ([], tone)
  | count + 1, tone =>
    let (rest, last) := frames count tone.advance
    (tone.frame :: rest, last)

/-- The block of the next packet. -/
def nextBlock (tone : Tone) : Bytes × Tone :=
  let (frames, tone) := frames samplesPerPacket tone
  (frames.flatten, tone)

end Tone

end AudioLink
