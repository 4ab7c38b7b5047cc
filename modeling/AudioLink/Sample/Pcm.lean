import AudioLink.Wire.Layout

/-!
# 24-bit samples

A sample is three bytes of two's complement, least significant byte first. Values outside the
24-bit range are clamped when they are packed.
-/

namespace AudioLink

namespace Pcm

def greatest : Int := 8388607

def least : Int := -8388608

def clamp (sample : Int) : Int := max least (min greatest sample)

/-- The three bytes of a sample. -/
def pack (sample : Int) : Bytes :=
  let word := (clamp sample % 16777216).toNat
  [UInt8.ofNat (word % 256), UInt8.ofNat (word / 256 % 256), UInt8.ofNat (word / 65536)]

/-- The sample of three bytes. -/
def unpack (low middle high : UInt8) : Int :=
  let word := low.toNat + 256 * middle.toNat + 65536 * high.toNat
  if word < 8388608 then word else (word : Int) - 16777216

/-- Reads samples to the end of a block, in front of those already read. -/
def unpackOnto (read : List Int) : Bytes → List Int
  | low :: middle :: high :: rest => unpackOnto (unpack low middle high :: read) rest
  | _ => read

/-- All whole samples of a block; what is left over at its end is ignored. -/
def unpackBlock (block : Bytes) : List Int := (unpackOnto [] block).reverse

theorem unpackOnto_eq :
    ∀ (block : Bytes) (read : List Int), unpackOnto read block = unpackOnto [] block ++ read
  | [], _ => rfl
  | [_], _ => rfl
  | [_, _], _ => rfl
  | low :: middle :: high :: rest, read => by
    rw [unpackOnto, unpackOnto, unpackOnto_eq rest (_ :: read), unpackOnto_eq rest [_],
      List.append_assoc]
    rfl

@[simp] theorem unpackBlock_cons (low middle high : UInt8) (rest : Bytes) :
    unpackBlock (low :: middle :: high :: rest) = unpack low middle high :: unpackBlock rest := by
  rw [unpackBlock, unpackOnto, unpackOnto_eq, List.reverse_append]
  rfl

end Pcm

end AudioLink
