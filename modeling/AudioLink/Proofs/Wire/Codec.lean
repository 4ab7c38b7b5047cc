import AudioLink.Wire.Device
import AudioLink.Wire.Frame

/-!
# Reading back what was written

A frame that is built from a header and a block of the right size carries the discriminator and is
read back, under the layout of that size and no other, as exactly that header and that block.
-/

namespace AudioLink

namespace Header

private theorem counter_bytes (counter : UInt16) :
    counter.toUInt8.toUInt16 ||| ((counter >>> 8).toUInt8.toUInt16 <<< 8) = counter := by
  apply UInt16.toNat.inj
  have hsize := counter.toNat_lt
  have h8 : (8 : UInt16).toNat % 16 = 8 := rfl
  simp only [UInt16.toNat_or, UInt16.toNat_shiftLeft, UInt8.toNat_toUInt16, UInt16.toNat_toUInt8,
    UInt16.toNat_shiftRight, h8]
  have hlow : counter.toNat % 2 ^ 8 < 2 ^ 8 := by omega
  have hhigh : (counter.toNat >>> 8 % 2 ^ 8) <<< 8 < 2 ^ 16 := by
    rw [Nat.shiftRight_eq_div_pow, Nat.shiftLeft_eq]
    omega
  rw [Nat.or_comm, Nat.mod_eq_of_lt hhigh, ← Nat.shiftLeft_add_eq_or_of_lt hlow,
    Nat.shiftRight_eq_div_pow, Nat.shiftLeft_eq]
  omega

private theorem ofBytes_toBytes (header : Header) (bytes : Bytes) (hlength : bytes.length = length)
    (h : bytes = header.toBytes) : ofBytes bytes hlength = header := by
  subst h
  have hcounter : (ofBytes header.toBytes hlength).counter = header.counter :=
    counter_bytes header.counter
  have hkind : (ofBytes header.toBytes hlength).kind = header.kind := by
    apply Vector.toArray_inj.mp
    simp only [ofBytes, toBytes, List.cons_append, List.nil_append, List.drop_succ_cons,
      List.drop_zero]
    rw [List.take_left' header.kind.length_toList]
    exact Array.toArray_toList
  have hdata : (ofBytes header.toBytes hlength).data = header.data := by
    apply Vector.toArray_inj.mp
    simp only [ofBytes, toBytes, List.cons_append, List.nil_append, List.drop_succ_cons]
    rw [List.drop_left' header.kind.length_toList]
    exact Array.toArray_toList
  cases header
  simp_all [ofBytes]

end Header

namespace Layout

theorem samplesLength_injective {a b : Layout} (h : a.samplesLength = b.samplesLength) :
    a = b := by
  obtain ⟨a⟩ := a
  obtain ⟨b⟩ := b
  simp only [samplesLength_eq] at h
  have : a.toNat = b.toNat := by omega
  rw [UInt16.toNat.inj this]

end Layout

namespace Frame

@[simp] theorem length_silence (layout : Layout) :
    (silence layout).length = layout.samplesLength := List.length_replicate

@[simp] theorem length_linkHeader : linkHeader.length = 14 := rfl

theorem length_build (header : Header) (block : Bytes) :
    (build header block).length = 52 + block.length := by
  simp only [build, List.length_append, length_linkHeader, Header.length_toBytes, Header.length,
    trailer, List.length_cons, List.length_nil]
  omega

@[simp] theorem hasDiscriminator_build (header : Header) (block : Bytes) :
    hasDiscriminator (build header block) = true := rfl

private theorem length_of_decode {frame : Bytes} {layout : Layout} {decoded : Decoded}
    (h : decode frame layout = .ok decoded) : frame.length = layout.frameLength := by
  by_cases hlength : frame.length = layout.frameLength
  · exact hlength
  · simp [decode, hlength] at h

/-- A frame that can be read holds a whole block. -/
theorem samples_of_decode {frame : Bytes} {layout : Layout} {decoded : Decoded}
    (h : decode frame layout = .ok decoded) :
    ∃ block, decoded.samples frame = some block ∧ block.length = layout.samplesLength := by
  have hlength := length_of_decode h
  have hplace : decoded.samplesOffset = layout.samplesOffset ∧
      decoded.samplesLength = layout.samplesLength := by
    simp only [decode, hlength, dif_pos] at h
    split at h
    · simp only [Except.ok.injEq] at h
      subst h
      exact ⟨rfl, rfl⟩
    · simp at h
  have hoffset : layout.samplesOffset = 50 := rfl
  have hframe := layout.frameLength_eq
  have hroom : decoded.samplesOffset + decoded.samplesLength ≤ frame.length := by
    rw [hplace.1, hplace.2, hlength]
    omega
  refine ⟨_, if_pos hroom, ?_⟩
  rw [List.length_take, List.length_drop, hplace.1, hplace.2, hlength]
  omega

private theorem headerBytes_build (header : Header) (block : Bytes) (layout : Layout) :
    ((build header block).drop layout.headerOffset).take Header.length = header.toBytes := by
  have hoffset : layout.headerOffset = linkHeader.length := rfl
  rw [build, hoffset, List.drop_left, List.take_left' header.length_toBytes]

private theorem trailer_build (header : Header) (block : Bytes) (layout : Layout)
    (h : block.length = layout.samplesLength)
    (hfirst : layout.trailerOffset < (build header block).length)
    (hsecond : layout.trailerOffset + 1 < (build header block).length) :
    [(build header block)[layout.trailerOffset], (build header block)[layout.trailerOffset + 1]] =
      trailer := by
  have hbuild : build header block = (linkHeader ++ (header.toBytes ++ block)) ++ trailer := by
    simp only [build, List.append_assoc]
  have hfront : (linkHeader ++ (header.toBytes ++ block)).length = layout.trailerOffset := by
    simp only [List.length_append, length_linkHeader, Header.length_toBytes, Header.length, h,
      layout.trailerOffset_eq]
    omega
  simp only [hbuild]
  rw [List.getElem_append_right (by omega), List.getElem_append_right (by omega)]
  simp only [hfront, Nat.sub_self, Nat.add_sub_cancel_left]
  rfl

/-- A built frame is read back as what it was built from. -/
theorem decode_build (header : Header) (block : Bytes) (layout : Layout)
    (h : block.length = layout.samplesLength) :
    decode (build header block) layout =
      .ok ⟨header, layout.samplesOffset, layout.samplesLength⟩ := by
  have hlength : (build header block).length = layout.frameLength := by
    rw [length_build, layout.frameLength_eq, h]
  unfold decode
  rw [dif_pos hlength]
  dsimp only
  rw [if_pos (trailer_build header block layout h _ _),
    Header.ofBytes_toBytes header _ _ (headerBytes_build header block layout)]

theorem samples_build (header : Header) (block : Bytes) (layout : Layout)
    (h : block.length = layout.samplesLength) :
    (⟨header, layout.samplesOffset, layout.samplesLength⟩ : Decoded).samples (build header block) =
      some block := by
  have hfront : layout.samplesOffset = (linkHeader ++ header.toBytes).length := by
    rw [List.length_append, length_linkHeader, Header.length_toBytes]
    rfl
  have hroom : layout.samplesOffset + layout.samplesLength ≤ (build header block).length := by
    have hoffset : layout.samplesOffset = 50 := rfl
    rw [length_build, h]
    omega
  have hbuild : build header block = (linkHeader ++ header.toBytes) ++ (block ++ trailer) := by
    simp only [build, List.append_assoc]
  unfold Decoded.samples
  dsimp only
  rw [if_pos hroom, hbuild, hfront, List.drop_left, List.take_left' h]

/-- What a frame says under a layout, if it is of the protocol and can be read. -/
def content? (layout : Layout) (frame : Bytes) : Option (Header × Bytes) :=
  if hasDiscriminator frame then
    match decode frame layout with
    | .ok decoded => (decoded.samples frame).map fun block => (decoded.header, block)
    | .error _ => none
  else none

/-- A built frame says what it was built from. -/
theorem content?_build (header : Header) (block : Bytes) (layout : Layout)
    (h : block.length = layout.samplesLength) :
    content? layout (build header block) = some (header, block) := by
  unfold content?
  rw [if_pos (hasDiscriminator_build header block), decode_build header block layout h]
  simp only [samples_build header block layout h, Option.map_some]

/-- Under a layout of another size a built frame says nothing. -/
theorem content?_build_of_ne (header : Header) (block : Bytes) (layout : Layout)
    (h : block.length ≠ layout.samplesLength) :
    content? layout (build header block) = none := by
  have hlength : (build header block).length ≠ layout.frameLength := by
    rw [length_build, layout.frameLength_eq]
    omega
  simp [content?, decode, hlength]

theorem content?_of_decode {frame block : Bytes} {layout : Layout} {decoded : Decoded}
    (h : decode frame layout = .ok decoded) (hframe : hasDiscriminator frame = true)
    (hblock : decoded.samples frame = some block) :
    content? layout frame = some (decoded.header, block) := by
  simp [content?, h, hframe, hblock]

theorem hasDiscriminator_of_content? {frame : Bytes} {layout : Layout} {packet : Header × Bytes}
    (h : content? layout frame = some packet) : hasDiscriminator frame = true := by
  unfold content? at h
  split at h
  · assumption
  · cases h

theorem content?_of_error {frame : Bytes} {layout : Layout} {cause : DecodeError}
    (h : decode frame layout = .error cause) : content? layout frame = none := by
  simp [content?, h]

end Frame

end AudioLink
