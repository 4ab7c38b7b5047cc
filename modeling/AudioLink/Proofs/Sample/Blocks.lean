import AudioLink.Sample.Pcm
import Mathlib.Data.Set.Function

/-!
# Reading back packed samples

Packing and reading are inverse to each other between the samples that fit into 24 bits and the
blocks of whole samples. Other samples come back clamped, and of other blocks the bytes after the
last whole sample are lost.
-/

namespace AudioLink

namespace Pcm

/-- The block of a list of samples. -/
def packBlock (samples : List Int) : Bytes := samples.flatMap pack

def Fits (sample : Int) : Prop := -8388608 ≤ sample ∧ sample ≤ 8388607

@[simp] theorem packBlock_nil : packBlock [] = [] := rfl

@[simp] theorem packBlock_cons (sample : Int) (samples : List Int) :
    packBlock (sample :: samples) = pack sample ++ packBlock samples := rfl

@[simp] theorem length_pack (sample : Int) : (pack sample).length = 3 := rfl

private theorem length_packBlock (samples : List Int) :
    (packBlock samples).length = 3 * samples.length := by
  induction samples with
  | nil => rfl
  | cons sample samples ih =>
    simp only [packBlock_cons, List.length_append, length_pack, List.length_cons, ih]
    omega

private theorem fits_clamp (sample : Int) : Fits (clamp sample) := by
  simp only [Fits, clamp, least, greatest]
  omega

private theorem clamp_of_fits {sample : Int} (h : Fits sample) : clamp sample = sample := by
  simp only [Fits] at h
  simp only [clamp, least, greatest]
  omega

/-- The bytes of a sample are the lower three of its 32-bit word, least significant first. -/
theorem pack_eq_extract (sample : Int) :
    pack sample =
      [0, 8, 16].map fun start =>
        UInt8.ofBitVec ((BitVec.ofInt 32 (clamp sample)).extractLsb' start 8) := by
  have hoctet (n start : Nat)
      (h : n % 256 = (BitVec.ofInt 32 (clamp sample)).toNat / 2 ^ start % 256) :
      UInt8.ofNat n = UInt8.ofBitVec ((BitVec.ofInt 32 (clamp sample)).extractLsb' start 8) := by
    apply UInt8.toNat.inj
    rw [UInt8.toNat_ofNat', UInt8.toNat_ofBitVec, BitVec.extractLsb'_toNat,
      Nat.shiftRight_eq_div_pow]
    exact h
  obtain ⟨hleast, hgreatest⟩ := fits_clamp sample
  simp only [BitVec.toNat_ofInt] at hoctet
  rw [pack, List.map_cons, List.map_cons, List.map_cons, List.map_nil]
  congr 1
  · exact hoctet _ 0 (by omega)
  congr 1
  · exact hoctet _ 8 (by omega)
  congr 1
  · exact hoctet _ 16 (by omega)

/-- Three bytes are read as the lower ones of a 32-bit word, and the sign is drawn down into the
upper byte by an arithmetic shift. -/
theorem unpack_eq_sshiftRight (low middle high : UInt8) :
    unpack low middle high =
      ((BitVec.ofNat 32 (low.toNat + 256 * middle.toNat + 65536 * high.toNat) <<< 8).sshiftRight
        8).toInt := by
  have hlow := low.toNat_lt
  have hmiddle := middle.toNat_lt
  have hhigh := high.toNat_lt
  rw [BitVec.toInt_sshiftRight, BitVec.toInt_shiftLeft, BitVec.toNat_ofNat, Nat.shiftLeft_eq,
    Int.shiftRight_eq_div_pow, Int.bmod_def, unpack]
  split <;> omega

private theorem unpack_word (word : Nat) (h : word < 16777216) :
    unpack (UInt8.ofNat (word % 256)) (UInt8.ofNat (word / 256 % 256))
        (UInt8.ofNat (word / 65536)) =
      if word < 8388608 then (word : Int) else word - 16777216 := by
  have hoctet (n : Nat) (h : n < 256) : (UInt8.ofNat n).toNat = n := by
    rw [UInt8.toNat_ofNat']
    exact Nat.mod_eq_of_lt h
  have hword : word % 256 + 256 * (word / 256 % 256) + 65536 * (word / 65536) = word := by omega
  simp only [unpack, hoctet (word % 256) (by omega), hoctet (word / 256 % 256) (by omega),
    hoctet (word / 65536) (by omega), hword]

private theorem unpackBlock_pack_append (sample : Int) (block : Bytes) :
    unpackBlock (pack sample ++ block) = clamp sample :: unpackBlock block := by
  obtain ⟨hleast, hgreatest⟩ := fits_clamp sample
  rw [pack, List.cons_append, List.cons_append, List.cons_append, List.nil_append,
    unpackBlock_cons, unpack_word _ (by omega)]
  congr 1
  split <;> omega

private theorem fits_unpack (low middle high : UInt8) : Fits (unpack low middle high) := by
  have hlow := low.toNat_lt
  have hmiddle := middle.toNat_lt
  have hhigh := high.toNat_lt
  simp only [Fits, unpack]
  split <;> omega

private theorem pack_unpack (low middle high : UInt8) :
    pack (unpack low middle high) = [low, middle, high] := by
  have hlow := low.toNat_lt
  have hmiddle := middle.toNat_lt
  have hhigh := high.toNat_lt
  have hword : (unpack low middle high % 16777216).toNat =
      low.toNat + 256 * middle.toNat + 65536 * high.toNat := by
    rw [unpack]
    split <;> omega
  have hoctet (octet : UInt8) (n : Nat) (h : n = octet.toNat) : UInt8.ofNat n = octet := by
    rw [h, UInt8.ofNat_toNat]
  rw [pack, clamp_of_fits (fits_unpack low middle high), hword]
  congr 1
  · exact hoctet low _ (by omega)
  congr 1
  · exact hoctet middle _ (by omega)
  congr 1
  · exact hoctet high _ (by omega)

private theorem unpackBlock_packBlock (samples : List Int) :
    unpackBlock (packBlock samples) = samples.map clamp := by
  induction samples with
  | nil => rfl
  | cons sample samples ih => rw [packBlock_cons, unpackBlock_pack_append, ih, List.map_cons]

private theorem length_unpackBlock : ∀ block : Bytes, (unpackBlock block).length = block.length / 3
  | [] | [_] | [_, _] => by simp [unpackBlock, unpackOnto]
  | _ :: _ :: _ :: rest => by
    simp only [unpackBlock_cons, List.length_cons, length_unpackBlock rest]
    omega

private theorem fits_of_mem_unpackBlock :
    ∀ (block : Bytes), ∀ sample ∈ unpackBlock block, Fits sample
  | [], _, h | [_], _, h | [_, _], _, h => by cases h
  | low :: middle :: high :: rest, sample, h => by
    rw [unpackBlock_cons, List.mem_cons] at h
    rcases h with rfl | h
    · exact fits_unpack low middle high
    · exact fits_of_mem_unpackBlock rest sample h

private theorem packBlock_unpackBlock : ∀ block : Bytes,
    packBlock (unpackBlock block) = block.take (block.length - block.length % 3)
  | [] | [_] | [_, _] => rfl
  | low :: middle :: high :: rest => by
    have hlength : rest.length + 1 + 1 + 1 - (rest.length + 1 + 1 + 1) % 3 =
        rest.length - rest.length % 3 + 1 + 1 + 1 := by omega
    rw [unpackBlock_cons, packBlock_cons, pack_unpack, packBlock_unpackBlock rest]
    simp only [List.length_cons, hlength, List.take_succ_cons, List.cons_append, List.nil_append]

private theorem invOn_packBlock :
    Set.InvOn unpackBlock packBlock {samples | ∀ sample ∈ samples, Fits sample}
      {block | block.length % 3 = 0} := by
  constructor
  · intro samples hsamples
    rw [unpackBlock_packBlock, List.map_congr_left fun s hs => clamp_of_fits (hsamples s hs)]
    exact List.map_id' samples
  · intro block hblock
    rw [Set.mem_ofPred_eq] at hblock
    rw [packBlock_unpackBlock, hblock, Nat.sub_zero, List.take_length]

private theorem bijOn_packBlock :
    Set.BijOn packBlock {samples | ∀ sample ∈ samples, Fits sample}
      {block | block.length % 3 = 0} := by
  apply invOn_packBlock.bijOn
  · intro samples _
    rw [Set.mem_ofPred_eq, length_packBlock]
    exact Nat.mul_mod_right 3 samples.length
  · intro block _
    exact fits_of_mem_unpackBlock block

/-- The samples of a block that was packed are the packed ones, each clamped to 24 bits. The samples
of any block are as many as it has whole groups of three bytes, they all fit into 24 bits, and
packed again they give the block without the one or two bytes that are left over at its end. So the
lists of samples that fit and the blocks of whole samples correspond to each other one to one. -/
theorem blocks_read_back :
    (∀ samples : List Int, unpackBlock (packBlock samples) =
      samples.map fun sample => max (-8388608) (min 8388607 sample)) ∧
    (∀ block : Bytes,
      (∀ sample ∈ unpackBlock block, -8388608 ≤ sample ∧ sample ≤ 8388607) ∧
      (unpackBlock block).length = block.length / 3 ∧
      packBlock (unpackBlock block) = block.take (block.length - block.length % 3)) ∧
    Set.InvOn unpackBlock packBlock {samples | ∀ sample ∈ samples, Fits sample}
      {block | block.length % 3 = 0} ∧
    Set.BijOn packBlock {samples | ∀ sample ∈ samples, Fits sample}
      {block | block.length % 3 = 0} := by
  refine ⟨unpackBlock_packBlock, ?_, invOn_packBlock, bijOn_packBlock⟩
  intro block
  exact ⟨fits_of_mem_unpackBlock block, length_unpackBlock block, packBlock_unpackBlock block⟩

/-- The extreme 32-bit samples are clamped, and the least 24-bit sample comes out of a block with
two bytes too many. -/
theorem blocks_read_back_extremes :
    unpackBlock (packBlock [2147483647, -1, -2147483648]) = [8388607, -1, -8388608] ∧
    -8388608 ∈ unpackBlock [0x00, 0x00, 0x80, 0xff, 0xff] ∧ (-8388608 : Int) ≤ 8388607 ∧
    packBlock (unpackBlock [0x00, 0x00, 0x80, 0xff, 0xff]) = [0x00, 0x00, 0x80] ∧
    Fits 8388607 ∧ unpackBlock (packBlock [8388607]) = [8388607] := by
  obtain ⟨hpacked, hread, hinverse, -⟩ := blocks_read_back
  have hmem : -8388608 ∈ unpackBlock [0x00, 0x00, 0x80, 0xff, 0xff] := by decide
  have hfits : Fits 8388607 := by simp [Fits]
  obtain ⟨hrange, -, hwhole⟩ := hread [0x00, 0x00, 0x80, 0xff, 0xff]
  exact ⟨(hpacked _).trans (by decide), hmem, (hrange _ hmem).2, hwhole.trans (by decide), hfits,
    hinverse.1 (by simp [hfits])⟩

end Pcm

end AudioLink
