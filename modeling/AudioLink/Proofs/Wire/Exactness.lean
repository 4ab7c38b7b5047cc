import AudioLink.Proofs.Wire.Codec

/-!
# One frame for each packet

A layout, a header and a block of the size of the layout make one frame, and every byte string that
can be read under the layout is that frame, but for its first 14 bytes: reading does not look at
the link-layer header, and writing always puts the same one.
-/

namespace AudioLink

namespace Header

private theorem bytes_of_counter (low high : UInt8) :
    (low.toUInt16 ||| (high.toUInt16 <<< 8)).toUInt8 = low ∧
      ((low.toUInt16 ||| (high.toUInt16 <<< 8)) >>> 8).toUInt8 = high := by
  have hlow := low.toNat_lt
  have hhigh := high.toNat_lt
  have h8 : (8 : UInt16).toNat % 16 = 8 := rfl
  have hword : (low.toUInt16 ||| (high.toUInt16 <<< 8)).toNat = high.toNat * 2 ^ 8 + low.toNat := by
    simp only [UInt16.toNat_or, UInt16.toNat_shiftLeft, UInt8.toNat_toUInt16, h8]
    have hfits : high.toNat <<< 8 < 2 ^ 16 := by
      rw [Nat.shiftLeft_eq]
      omega
    rw [Nat.or_comm, Nat.mod_eq_of_lt hfits, ← Nat.shiftLeft_add_eq_or_of_lt hlow, Nat.shiftLeft_eq]
  constructor
  · apply UInt8.toNat.inj
    rw [UInt16.toNat_toUInt8, hword]
    omega
  · apply UInt8.toNat.inj
    rw [UInt16.toNat_toUInt8, UInt16.toNat_shiftRight, hword, h8, Nat.shiftRight_eq_div_pow]
    omega

private theorem toBytes_ofBytes (bytes : Bytes) (h : bytes.length = length) :
    (ofBytes bytes h).toBytes = bytes := by
  match bytes, h with
  | low :: high :: rest, h =>
    obtain ⟨hlow, hhigh⟩ := bytes_of_counter low high
    have hrest : rest.length = 34 := by simpa [length] using h
    have hkind : (ofBytes (low :: high :: rest) h).kind.toList = rest.take 2 := rfl
    have hdata : (ofBytes (low :: high :: rest) h).data.toList = rest.drop 2 := rfl
    have hcounter : (ofBytes (low :: high :: rest) h).counter =
        low.toUInt16 ||| (high.toUInt16 <<< 8) := rfl
    rw [toBytes, hkind, hdata, hcounter, hlow, hhigh, List.append_assoc, List.take_append_drop]
    rfl

end Header

namespace Frame

private theorem encode_of_fitting (header : Header) (samples : Option Bytes) (layout : Layout)
    (h : ∀ block, samples = some block → block.length = layout.samplesLength) :
    encode header samples layout = .ok (build header (samples.getD (silence layout))) := by
  cases samples with
  | none => rfl
  | some block => exact if_pos (h block rfl)

private theorem encode_of_unfit (header : Header) (block : Bytes) (layout : Layout)
    (h : block.length ≠ layout.samplesLength) :
    encode header (some block) layout =
      .error (.sampleSizeMismatch layout.samplesLength block.length) := if_neg h

/-- A frame that was written holds the block that it was written from, of the right size. -/
theorem build_of_encode {header : Header} {samples : Option Bytes} {layout : Layout} {frame : Bytes}
    (h : encode header samples layout = .ok frame) :
    frame = build header (samples.getD (silence layout)) ∧
      (samples.getD (silence layout)).length = layout.samplesLength := by
  cases samples with
  | none =>
    cases h
    exact ⟨rfl, length_silence layout⟩
  | some block =>
    by_cases hsize : block.length = layout.samplesLength
    · rw [encode, if_pos hsize] at h
      cases h
      exact ⟨rfl, hsize⟩
    · rw [encode_of_unfit header block layout hsize] at h
      cases h

/-- What reading a frame can come to. -/
inductive Reading (frame : Bytes) (layout : Layout) : Except DecodeError Decoded → Prop where
  | misfit (hlength : frame.length ≠ layout.frameLength) :
      Reading frame layout (.error (.lengthMismatch layout.frameLength frame.length))
  | unmarked (first second : UInt8) (hlength : frame.length = layout.frameLength)
      (hlast : frame.drop (frame.length - 2) = [first, second])
      (hbad : [first, second] ≠ trailer) :
      Reading frame layout (.error (.badTrailer first second))
  | whole (header : Header) (hlength : frame.length = layout.frameLength)
      (hlast : frame.drop (frame.length - 2) = trailer)
      (hheader : header.toBytes = (frame.drop 14).take 36) :
      Reading frame layout (.ok ⟨header, layout.samplesOffset, layout.samplesLength⟩)

private theorem drop_two {bytes : Bytes} {n : Nat} (h : bytes.length = n + 2) :
    bytes.drop n = [bytes[n], bytes[n + 1]] := by
  rw [List.drop_eq_getElem_cons (by omega), List.drop_eq_getElem_cons (by omega),
    List.drop_of_length_le (by omega)]

theorem decode_reading (frame : Bytes) (layout : Layout) :
    Reading frame layout (decode frame layout) := by
  by_cases h : frame.length = layout.frameLength
  · have hlength : frame.length = layout.trailerOffset + 2 := h
    have hlast : frame.drop (frame.length - 2) =
        [frame[layout.trailerOffset], frame[layout.trailerOffset + 1]] := by
      rw [show frame.length - 2 = layout.trailerOffset by omega, drop_two hlength]
    by_cases hmarker : [frame[layout.trailerOffset], frame[layout.trailerOffset + 1]] = trailer
    · have hhead : ((frame.drop 14).take 36).length = Header.length := by
        rw [layout.frameLength_eq] at h
        simp only [List.length_take, List.length_drop, Header.length]
        omega
      simp only [decode, h, dif_pos, if_pos hmarker]
      exact .whole _ h (hlast.trans hmarker) (Header.toBytes_ofBytes _ hhead)
    · simp only [decode, h, dif_pos, if_neg hmarker]
      exact .unmarked _ _ h hlast hmarker
  · rw [decode, dif_neg h]
    exact .misfit h

private theorem decode_eq_lengthMismatch_iff (frame : Bytes) (layout : Layout)
    (expected actual : Nat) :
    decode frame layout = .error (.lengthMismatch expected actual) ↔
      frame.length ≠ layout.frameLength ∧ expected = layout.frameLength ∧
        actual = frame.length := by
  have h := decode_reading frame layout
  generalize decode frame layout = result at h ⊢
  cases h with
  | misfit hlength => simp [hlength, eq_comm]
  | unmarked first second hlength hlast hbad => simp [hlength]
  | whole header hlength hlast hheader => simp [hlength]

private theorem decode_eq_badTrailer_iff (frame : Bytes) (layout : Layout) (first second : UInt8) :
    decode frame layout = .error (.badTrailer first second) ↔
      frame.length = layout.frameLength ∧ frame.drop (frame.length - 2) = [first, second] ∧
        [first, second] ≠ trailer := by
  have h := decode_reading frame layout
  generalize decode frame layout = result at h ⊢
  cases h with
  | misfit hlength => simp [hlength]
  | unmarked first' second' hlength hlast hbad =>
    rw [hlast]
    constructor
    · rintro ⟨⟩
      exact ⟨hlength, rfl, hbad⟩
    · rintro ⟨-, hsame, -⟩
      cases hsame
      rfl
  | whole header hlength hlast hheader =>
    rw [hlast]
    constructor
    · intro h
      cases h
    · rintro ⟨-, hsame, hbad⟩
      exact absurd hsame.symm hbad

private theorem decode_eq_ok_iff (frame : Bytes) (layout : Layout) :
    (∃ decoded, decode frame layout = .ok decoded) ↔
      frame.length = layout.frameLength ∧ frame.drop (frame.length - 2) = trailer := by
  have h := decode_reading frame layout
  generalize decode frame layout = result at h ⊢
  cases h with
  | misfit hlength => simp [hlength]
  | unmarked first second hlength hlast hbad => simp [hlast, hbad]
  | whole header hlength hlast hheader =>
    rw [hlast]
    simp [hlength]

private theorem build_of_decode {frame block : Bytes} {layout : Layout} {decoded : Decoded}
    (h : decode frame layout = .ok decoded) (hblock : decoded.samples frame = some block) :
    build decoded.header block = linkHeader ++ frame.drop 14 := by
  have hreading := decode_reading frame layout
  rw [h] at hreading
  cases hreading with
  | whole header hlength hlast hheader =>
    have hoffset : layout.samplesOffset = 50 := rfl
    have hend : frame.length - 2 = 50 + layout.samplesLength := by
      rw [hlength, layout.frameLength_eq]
      omega
    have hsamples : block = (frame.drop 50).take layout.samplesLength := by
      simp only [Decoded.samples, hoffset] at hblock
      split at hblock
      · exact (Option.some.inj hblock).symm
      · cases hblock
    have hparts : frame.drop 14 =
        (frame.drop 14).take 36 ++ ((frame.drop 50).take layout.samplesLength ++
          frame.drop (50 + layout.samplesLength)) := by
      rw [← List.drop_drop, List.take_append_drop, show 50 = 14 + 36 from rfl, ← List.drop_drop,
        List.take_append_drop]
    rw [hparts, ← hend, hlast, build, hheader, hsamples]

/-- A frame is written from a header and a block of the right size, or from a header alone, which
stands for silence, and only then. It is read under its own layout as just that header and that
block, and under any other layout it is refused for its length. Every other byte string is refused,
for its length first and for its marker second; and what is read, when it is written again, is the
byte string behind a new link-layer header. -/
theorem frames_exact (header : Header) (samples : Option Bytes) (layout layout' : Layout)
    (frame : Bytes) :
    ((∃ written, encode header samples layout = .ok written) ↔
      ∀ block, samples = some block → block.length = 36 * layout.channels.toNat) ∧
    (∀ block, samples = some block → block.length ≠ 36 * layout.channels.toNat →
      encode header samples layout =
        .error (.sampleSizeMismatch (36 * layout.channels.toNat) block.length)) ∧
    (∀ written, encode header samples layout = .ok written →
      written.length = layout.frameLength ∧ hasDiscriminator written = true ∧
      (∃ decoded, decode written layout = .ok decoded ∧ decoded.header = header ∧
        decoded.samples written =
          some (samples.getD (List.replicate (36 * layout.channels.toNat) 0))) ∧
      (layout' ≠ layout → decode written layout' =
        .error (.lengthMismatch layout'.frameLength layout.frameLength))) ∧
    (∀ expected actual, decode frame layout = .error (.lengthMismatch expected actual) ↔
      frame.length ≠ layout.frameLength ∧ expected = layout.frameLength ∧
        actual = frame.length) ∧
    (∀ first second, decode frame layout = .error (.badTrailer first second) ↔
      frame.length = layout.frameLength ∧ frame.drop (frame.length - 2) = [first, second] ∧
        [first, second] ≠ [0xc2, 0xea]) ∧
    ((∃ decoded, decode frame layout = .ok decoded) ↔
      frame.length = layout.frameLength ∧ frame.drop (frame.length - 2) = [0xc2, 0xea]) ∧
    ∀ decoded, decode frame layout = .ok decoded →
      ∃ block, decoded.samples frame = some block ∧
        encode decoded.header (some block) layout =
          .ok (List.replicate 12 0xff ++ [0x88, 0x19] ++ frame.drop 14) := by
  rw [← layout.samplesLength_eq]
  refine ⟨⟨?_, ?_⟩, ?_, ?_, decode_eq_lengthMismatch_iff frame layout,
    decode_eq_badTrailer_iff frame layout, decode_eq_ok_iff frame layout, ?_⟩
  · rintro ⟨written, hwritten⟩ block rfl
    exact (build_of_encode hwritten).2
  · intro h
    exact ⟨_, encode_of_fitting header samples layout h⟩
  · rintro block rfl hsize
    exact encode_of_unfit header block layout hsize
  · intro written hwritten
    obtain ⟨rfl, hsize⟩ := build_of_encode hwritten
    have hlength : (build header (samples.getD (silence layout))).length = layout.frameLength := by
      rw [length_build, hsize, layout.frameLength_eq]
    refine ⟨hlength, hasDiscriminator_build _ _,
      ⟨_, decode_build header _ layout hsize, rfl, samples_build header _ layout hsize⟩, ?_⟩
    intro hother
    rw [decode_eq_lengthMismatch_iff, hlength]
    refine ⟨?_, rfl, rfl⟩
    intro hsame
    rw [layout.frameLength_eq, layout'.frameLength_eq] at hsame
    exact hother (Layout.samplesLength_injective (by omega))
  · intro decoded hdecode
    obtain ⟨block, hblock, hsize⟩ := samples_of_decode hdecode
    refine ⟨block, hblock, ?_⟩
    rw [encode, if_pos hsize, build_of_decode hdecode hblock]
    rfl

def loneHeader : Header := ⟨513, #v[7, 8], Vector.replicate 32 9⟩

/-- The frame of one channel with another link-layer header than the one that is written. -/
def foreignFrame : Bytes := List.replicate 14 1 ++ (build loneHeader (silence ⟨1⟩)).drop 14

theorem frames_exact_foreign :
    let block := List.replicate 36 (5 : UInt8)
    (∃ written, encode loneHeader (some block) ⟨1⟩ = .ok written) ∧
    encode loneHeader (some [5]) ⟨1⟩ = .error (.sampleSizeMismatch 36 1) ∧
    (∃ decoded, decode (build loneHeader block) ⟨1⟩ = .ok decoded ∧ decoded.header = loneHeader ∧
      decoded.samples (build loneHeader block) = some block) ∧
    decode (build loneHeader block) ⟨2⟩ = .error (.lengthMismatch 124 88) ∧
    ∃ decoded block', decode foreignFrame ⟨1⟩ = .ok decoded ∧
      decoded.samples foreignFrame = some block' ∧
      encode decoded.header (some block') ⟨1⟩ =
        .ok (List.replicate 12 0xff ++ [0x88, 0x19] ++ foreignFrame.drop 14) := by
  intro block
  have hfits : encode loneHeader (some block) ⟨1⟩ = .ok (build loneHeader block) := rfl
  obtain ⟨hwrites, -, hwritten, -, -, hreads, hagain⟩ :=
    frames_exact loneHeader (some block) ⟨1⟩ ⟨2⟩ foreignFrame
  obtain ⟨-, -, hback, hother⟩ := hwritten _ hfits
  obtain ⟨-, hrefused, -⟩ := frames_exact loneHeader (some [5]) ⟨1⟩ ⟨2⟩ foreignFrame
  obtain ⟨decoded, hdecoded⟩ := hreads.mpr ⟨by decide +kernel, by decide +kernel⟩
  obtain ⟨block', hblock', hsame⟩ := hagain decoded hdecoded
  refine ⟨hwrites.mpr ?_, hrefused [5] rfl (by decide), hback, hother (by decide),
    decoded, block', hdecoded, hblock', hsame⟩
  rintro _ ⟨⟩
  rfl

end Frame

end AudioLink
