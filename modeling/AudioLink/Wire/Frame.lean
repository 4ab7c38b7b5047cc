import AudioLink.Error
import AudioLink.Wire.Layout

/-!
# Frames

A frame is written from a header and a sample block and read back by length and trailing marker
alone. Reading checks the length first, then the marker; once both hold, the header and the place
of the sample block are fixed.
-/

namespace AudioLink

namespace Frame

/-- Whether a frame carries the discriminator of this protocol. -/
def hasDiscriminator (frame : Bytes) : Bool :=
  (frame.drop discriminatorOffset).take discriminator.length == discriminator

/-- The bytes in front of every header: two broadcast addresses and the discriminator. -/
def linkHeader : Bytes :=
  Mac.broadcast.octets.toList ++ Mac.broadcast.octets.toList ++ discriminator

def silence (layout : Layout) : Bytes := List.replicate layout.samplesLength 0

/-- The frame of a header and a block of the right size. -/
def build (header : Header) (block : Bytes) : Bytes :=
  linkHeader ++ (header.toBytes ++ (block ++ trailer))

/-- Builds a frame; without samples it carries silence. -/
def encode (header : Header) (samples : Option Bytes) (layout : Layout) :
    Except EncodeError Bytes :=
  match samples with
  | none => .ok (build header (silence layout))
  | some block =>
    if block.length = layout.samplesLength then .ok (build header block)
    else .error (.sampleSizeMismatch layout.samplesLength block.length)

/-- What reading a frame yields: its header, and where the sample block lies in it. -/
structure Decoded where
  header : Header
  samplesOffset : Nat
  samplesLength : Nat
  deriving DecidableEq

/-- The block at the place that was found in the decoded frame, if `frame` is long enough. -/
def Decoded.samples (decoded : Decoded) (frame : Bytes) : Option Bytes :=
  if decoded.samplesOffset + decoded.samplesLength ≤ frame.length then
    some ((frame.drop decoded.samplesOffset).take decoded.samplesLength)
  else none

/-- Checks the length, then the trailing marker, and reads the header. -/
def decode (frame : Bytes) (layout : Layout) : Except DecodeError Decoded :=
  if h : frame.length = layout.frameLength then
    have hlast : layout.trailerOffset + 1 < frame.length := by
      simp only [h, Layout.frameLength_eq, Layout.trailerOffset_eq]; omega
    have hhead : ((frame.drop layout.headerOffset).take Header.length).length = Header.length := by
      simp only [List.length_take, List.length_drop, h, Layout.frameLength_eq]
      simp only [Layout.headerOffset, linkHeaderLength, macLength, discriminator, Header.length,
        List.length_cons, List.length_nil]
      omega
    let first := frame[layout.trailerOffset]
    let second := frame[layout.trailerOffset + 1]
    if [first, second] = trailer then
      .ok
        { header := Header.ofBytes ((frame.drop layout.headerOffset).take Header.length) hhead
          samplesOffset := layout.samplesOffset
          samplesLength := layout.samplesLength }
    else .error (.badTrailer first second)
  else .error (.lengthMismatch layout.frameLength frame.length)

end Frame

end AudioLink
