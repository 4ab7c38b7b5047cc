import AudioLink.Wire.Mac

/-!
# Packet headers

A header is 36 bytes on the wire: a counter, least significant byte first, two bytes of kind, and
32 bytes of data. Only the counter has a meaning here; kind and data belong to the data stream.
-/

namespace AudioLink

/-- The header of one packet. -/
structure Header where
  counter : UInt16
  kind : Vector UInt8 2
  data : Vector UInt8 32
  deriving DecidableEq

namespace Header

/-- Bytes of opaque data in a header. -/
def dataLength : Nat := 32

def length : Nat := 36

/-- A header with nothing but a counter. -/
def ofCounter (counter : UInt16) : Header :=
  ⟨counter, Vector.replicate 2 0, Vector.replicate 32 0⟩

def zero : Header := ofCounter 0

/-- The header in wire order. -/
def toBytes (header : Header) : Bytes :=
  [header.counter.toUInt8, (header.counter >>> 8).toUInt8] ++
    header.kind.toList ++ header.data.toList

/-- Reads the header from its 36 bytes. -/
def ofBytes (bytes : Bytes) (h : bytes.length = length) : Header where
  counter :=
    have : 1 < bytes.length := by simp [h, length]
    bytes[0].toUInt16 ||| (bytes[1].toUInt16 <<< 8)
  kind := ⟨((bytes.drop 2).take 2).toArray, by simp [h, length]⟩
  data := ⟨(bytes.drop 4).toArray, by simp [h, length]⟩

@[simp] theorem length_toBytes (header : Header) : header.toBytes.length = length := by
  simp [toBytes, length]

end Header

end AudioLink
