import AudioLink.Sample.Pcm

/-!
# Sample levels

Samples as single-precision fractions of full scale, and the peak of a block.
-/

namespace AudioLink

/-- The nearest value between two bounds; a value that compares with neither stays as it is. -/
def clampFloat (low high value : Float32) : Float32 :=
  let value := if value < low then low else value
  if high < value then high else value

namespace Pcm

def fullScale : Float32 := 8388607

/-- The sample of a level, with levels outside -1 to 1 clamped and fractions cut off. -/
def ofLevel (level : Float32) : Int :=
  (clampFloat (-1) 1 level * fullScale).toInt32.toInt

def level (sample : Int) : Float32 := (Int32.ofInt sample).toFloat32 / fullScale

/-- The greatest absolute level in a block, zero for an empty one. -/
def peak (block : Bytes) : Float32 :=
  (unpackBlock block).foldl
    (fun greatest sample =>
      let level := (level sample).abs
      if greatest < level then level else greatest)
    0

end Pcm

end AudioLink
