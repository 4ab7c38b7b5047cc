import AudioLink.Wire.Header

/-!
# Frame layouts

Everything in a frame but the sample block has a fixed size, so the channel count alone decides
where each part starts and how long the frame is: 14 bytes of link-layer header, 36 bytes of
packet header, 12 sample frames of 3 bytes per channel, and two trailing bytes.
-/

namespace AudioLink

/-- Samples per second of a link. -/
def sampleRate : Nat := 48000

/-- Sample frames in one packet. -/
def samplesPerPacket : Nat := 12

/-- Bytes of one sample. -/
def sampleBytes : Nat := 3

def packetRate : Nat := sampleRate / samplesPerPacket

def macLength : Nat := 6

/-- The two bytes of the link-layer type field that mark a frame as one of this protocol. -/
def discriminator : Bytes := [0x88, 0x19]

/-- Where the discriminator stands in a frame. -/
def discriminatorOffset : Nat := 12

/-- The two bytes that end every frame. -/
def trailer : Bytes := [0xc2, 0xea]

/-- Bytes of the link-layer header: two addresses and the type field. -/
def linkHeaderLength : Nat := 2 * macLength + discriminator.length

/-- The shape of all frames with a given number of channels. -/
structure Layout where
  channels : UInt16
  deriving DecidableEq

namespace Layout

def frameBytes (layout : Layout) : Nat := sampleBytes * layout.channels.toNat

def samplesLength (layout : Layout) : Nat := samplesPerPacket * layout.frameBytes

def headerOffset (_ : Layout) : Nat := linkHeaderLength

def samplesOffset (_ : Layout) : Nat := linkHeaderLength + Header.length

def trailerOffset (layout : Layout) : Nat := layout.samplesOffset + layout.samplesLength

/-- Bytes of a whole frame. -/
def frameLength (layout : Layout) : Nat := layout.trailerOffset + trailer.length

theorem samplesLength_eq (layout : Layout) :
    layout.samplesLength = 36 * layout.channels.toNat := by
  simp only [samplesLength, frameBytes, samplesPerPacket, sampleBytes]
  omega

theorem trailerOffset_eq (layout : Layout) :
    layout.trailerOffset = 50 + layout.samplesLength := rfl

theorem frameLength_eq (layout : Layout) :
    layout.frameLength = 52 + layout.samplesLength := by
  simp only [frameLength, trailerOffset_eq, trailer, List.length_cons, List.length_nil]
  omega

end Layout

end AudioLink
