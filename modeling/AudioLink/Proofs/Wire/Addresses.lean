import AudioLink.Wire.Mac

/-!
# Reading addresses

Six pairs of hexadecimal digits with colons between them are read as an address, and the case of
their letters does not matter. Besides these only one kind of text is read: a plus sign in the place
of the first digit of a pair counts as a zero, which writing never makes use of.
-/

namespace AudioLink

namespace Hex

private theorem toNat_toLower (c : Char) :
    c.toLower.toNat = if 65 ≤ c.toNat ∧ c.toNat ≤ 90 then c.toNat + 32 else c.toNat := by
  have hdistance : ('a'.val - 'A'.val).toNat = 32 := rfl
  by_cases h : 65 ≤ c.toNat ∧ c.toNat ≤ 90
  · have hletter : c.val ≥ 'A'.val ∧ c.val ≤ 'Z'.val := h
    have hlower : c.toLower.val = c.val + ('a'.val - 'A'.val) := congrArg Char.val (dif_pos hletter)
    rw [← Char.toNat_val, hlower, if_pos h, UInt32.toNat_add, hdistance, Char.toNat_val]
    omega
  · have hother : ¬(c.val ≥ 'A'.val ∧ c.val ≤ 'Z'.val) := h
    have hlower : c.toLower = c := dif_neg hother
    rw [hlower, if_neg h]

private theorem toLower_eq_iff {c sign : Char} (h : sign.toNat < 65) :
    c.toLower = sign ↔ c = sign := by
  rw [← Char.toNat_inj, ← Char.toNat_inj, toNat_toLower]
  split <;> omega

private theorem toNat_digit {value : Nat} (h : value < 16) :
    (digit value).toNat = if value < 10 then 48 + value else 87 + value := by
  decide +revert

private theorem digit_inj {v w : Nat} (hv : v < 16) (hw : w < 16) : digit v = digit w ↔ v = w := by
  rw [← Char.toNat_inj, toNat_digit hv, toNat_digit hw]
  split <;> split <;> omega

private theorem value?_eq_some_iff {c : Char} {v : Nat} :
    value? c = some v ↔ v < 16 ∧ c.toLower = digit v := by
  have hvalue : value? c = some v ↔ v < 16 ∧ (c.toNat = 48 + v ∧ v < 10 ∨
      10 ≤ v ∧ (c.toNat = 87 + v ∨ c.toNat = 55 + v)) := by
    simp only [value?]
    split
    · simp only [Option.some.injEq]
      omega
    · split
      · simp only [Option.some.injEq]
        omega
      · split
        · simp only [Option.some.injEq]
          omega
        · simp only [reduceCtorEq, false_iff]
          omega
  rw [hvalue]
  apply and_congr_right
  intro hv
  rw [← Char.toNat_inj, toNat_digit hv, toNat_toLower]
  split <;> split <;> omega

/-- A plus sign in front counts as a zero. -/
def unsigned : List Char → List Char
  | '+' :: rest => '0' :: rest
  | group => group

private theorem unsigned_of_not_mem {group : List Char} (h : '+' ∉ group) :
    unsigned group = group := by
  unfold unsigned
  split
  · simp at h
  · rfl

private theorem unsigned_cons (c : Char) (rest : List Char) :
    unsigned (c :: rest) = (if c = '+' then '0' else c) :: rest := by
  by_cases h : c = '+'
  · subst h
    rfl
  · rw [if_neg h]
    unfold unsigned
    split
    · rename_i hsame
      exact absurd (List.cons.inj hsame).1 h
    · rfl

private theorem toLower_digit {value : Nat} (h : value < 16) :
    (digit value).toLower = digit value := by
  decide +revert

private theorem not_mem_pair {sign : Char} (h : value? sign = none) (octet : UInt8) :
    sign ∉ pair octet := by
  have hsize := octet.toNat_lt
  have hdigit {v : Nat} (hv : v < 16) : sign ≠ digit v := by
    rintro rfl
    rw [value?_eq_some_iff.mpr ⟨hv, toLower_digit hv⟩] at h
    cases h
  simp only [pair, List.mem_cons, List.not_mem_nil, or_false, not_or]
  exact ⟨hdigit (by omega), hdigit (by omega)⟩

private theorem pair_eq_iff {octet : UInt8} {first second : Char} :
    [first, second] = pair octet ↔
      ∃ h l, h < 16 ∧ first = digit h ∧ l < 16 ∧ second = digit l ∧
        UInt8.ofNat (16 * h + l) = octet := by
  have hsize := octet.toNat_lt
  simp only [pair, List.cons.injEq, and_true]
  constructor
  · rintro ⟨hfirst, hsecond⟩
    refine ⟨octet.toNat / 16, octet.toNat % 16, by omega, hfirst, by omega, hsecond, ?_⟩
    rw [Nat.div_add_mod, UInt8.ofNat_toNat]
  · rintro ⟨h, l, hh, rfl, hl, rfl, rfl⟩
    have hvalue : (UInt8.ofNat (16 * h + l)).toNat = 16 * h + l := by
      rw [UInt8.toNat_ofNat']
      omega
    rw [hvalue, digit_inj hh (by omega), digit_inj hl (by omega)]
    omega

private theorem octet?_eq_some_iff {group : List Char} {octet : UInt8} :
    octet? group = some octet ↔ unsigned (group.map Char.toLower) = pair octet := by
  match group with
  | [] => simp [octet?, unsigned, pair]
  | [c] => simp [octet?, unsigned_cons, pair]
  | c :: d :: e :: rest => simp [octet?, unsigned_cons, pair]
  | [high, low] =>
    have hplus : high.toLower = '+' ↔ high = '+' := toLower_eq_iff (by decide)
    rw [List.map_cons, List.map_cons, List.map_nil, unsigned_cons, pair_eq_iff, octet?]
    simp only [hplus]
    by_cases hsign : high = '+'
    · rw [if_pos hsign, if_pos hsign, Option.map_eq_some_iff]
      have hzero {h : Nat} (hh : h < 16) (hdigit : '0' = digit h) : h = 0 := by
        have hdigit : digit 0 = digit h := hdigit
        exact ((digit_inj (by decide) hh).mp hdigit).symm
      constructor
      · rintro ⟨l, hl, rfl⟩
        obtain ⟨hl, hlow⟩ := value?_eq_some_iff.mp hl
        exact ⟨0, l, by decide, rfl, hl, hlow, by simp⟩
      · rintro ⟨h, l, hh, hdigit, hl, hlow, rfl⟩
        exact ⟨l, value?_eq_some_iff.mpr ⟨hl, hlow⟩, by simp [hzero hh hdigit]⟩
    · rw [if_neg hsign, if_neg hsign]
      constructor
      · intro hread
        split at hread
        · rename_i h l hhigh hlow
          obtain ⟨hh, hhigh⟩ := value?_eq_some_iff.mp hhigh
          obtain ⟨hl, hlow⟩ := value?_eq_some_iff.mp hlow
          exact ⟨h, l, hh, hhigh, hl, hlow, Option.some.inj hread⟩
        · cases hread
      · rintro ⟨h, l, hh, hhigh, hl, hlow, rfl⟩
        rw [value?_eq_some_iff.mpr ⟨hh, hhigh⟩, value?_eq_some_iff.mpr ⟨hl, hlow⟩]

private theorem octet?_pair (octet : UInt8) : octet? (pair octet) = some octet := by
  have hsize := octet.toNat_lt
  have hlower : (pair octet).map Char.toLower = pair octet := by
    rw [pair, List.map_cons, List.map_cons, List.map_nil, toLower_digit (by omega),
      toLower_digit (by omega)]
  rw [octet?_eq_some_iff, hlower, unsigned_of_not_mem (not_mem_pair (by decide) octet)]

/-- A hexadecimal digit of either case. -/
def IsDigit (c : Char) : Prop :=
  ∃ value < 16, c.toLower = digit value

private theorem isSome_value?_iff {c : Char} : (value? c).isSome ↔ IsDigit c := by
  simp only [Option.isSome_iff_exists, value?_eq_some_iff]
  rfl

private theorem isSome_octet?_iff {group : List Char} :
    (octet? group).isSome ↔ ∃ high low, group = [high, low] ∧
      (high = '+' ∨ IsDigit high) ∧ IsDigit low := by
  simp only [← isSome_value?_iff]
  constructor
  · intro h
    match group with
    | [high, low] =>
      refine ⟨high, low, rfl, ?_⟩
      by_cases hsign : high = '+'
      · simpa [octet?, hsign] using h
      · rw [octet?, if_neg hsign] at h
        split at h
        · simp [*]
        · cases h
  · rintro ⟨high, low, rfl, hhigh, hlow⟩
    by_cases hsign : high = '+'
    · simpa [octet?, hsign] using hlow
    · obtain ⟨h, hh⟩ := Option.isSome_iff_exists.mp (hhigh.resolve_left hsign)
      obtain ⟨l, hl⟩ := Option.isSome_iff_exists.mp hlow
      simp [octet?, hsign, hh, hl]

end Hex

private theorem toList_toLower (s : String) : s.toLower.toList = s.toList.map Char.toLower :=
  String.toList_map

section Groups

variable {c sep : Char}

private theorem mem_iff_mem_splitOn (h : c ≠ sep) (cs : List Char) :
    c ∈ cs ↔ ∃ group ∈ cs.splitOn sep, c ∈ group := by
  induction cs with
  | nil => simp
  | cons x rest ih =>
    obtain ⟨first, others, hsplit⟩ := List.exists_cons_of_ne_nil (List.splitOn_ne_nil sep rest)
    rw [hsplit] at ih
    rw [List.splitOn_cons_eq_if_modifyHead, hsplit, List.mem_cons, ih]
    by_cases hx : x = sep
    · simp [hx, h]
    · simp [hx, or_assoc]

private theorem splitOn_map_toLower (h : sep.toNat < 65) (cs : List Char) :
    (cs.map Char.toLower).splitOn sep = (cs.splitOn sep).map (List.map Char.toLower) := by
  induction cs with
  | nil => rfl
  | cons x rest ih =>
    obtain ⟨first, others, hsplit⟩ := List.exists_cons_of_ne_nil (List.splitOn_ne_nil sep rest)
    rw [List.map_cons, List.splitOn_cons_eq_if_modifyHead, List.splitOn_cons_eq_if_modifyHead, ih,
      hsplit]
    by_cases hx : x = sep
    · simp [hx, (Hex.toLower_eq_iff h).mpr]
    · simp [hx, Hex.toLower_eq_iff h]

end Groups

namespace Mac

variable {mac : Mac}

private theorem splitOn_chars (mac : Mac) :
    mac.chars.splitOn ':' = mac.octets.toList.map Hex.pair := by
  apply List.splitOn_intercalate
  · intro group hgroup
    obtain ⟨octet, -, rfl⟩ := List.mem_map.mp hgroup
    exact Hex.not_mem_pair (by decide) octet
  · simp [← List.length_eq_zero_iff]

private theorem plus_not_mem_pairs {group : List Char}
    (h : group ∈ mac.octets.toList.map Hex.pair) :
    '+' ∉ group := by
  obtain ⟨octet, -, rfl⟩ := List.mem_map.mp h
  exact Hex.not_mem_pair (by decide) octet

private theorem ofChars?_eq_some_iff {cs : List Char} :
    ofChars? cs = some mac ↔ (cs.splitOn ':').map Hex.octet? = mac.octets.toList.map some := by
  constructor
  · intro h
    rw [ofChars?] at h
    split at h
    · rename_i hgroups
      cases Option.some.inj h
      exact hgroups
    · cases h
  · intro h
    have hsize : mac.octets.toList.length = 6 := by simp
    match hoctets : mac.octets.toList, hsize with
    | [a, b, c, d, e, f], _ =>
      have hmac : mac = ⟨#v[a, b, c, d, e, f]⟩ := by
        cases mac
        congr
        exact Vector.toList_inj.mp hoctets
      rw [ofChars?, h, hmac]
      rfl

private theorem toLower_eq_text_iff {s : String} :
    s.toLower = mac.text ↔ s.toLower.toList.splitOn ':' = mac.octets.toList.map Hex.pair := by
  rw [← splitOn_chars, text, ← String.toList_inj, String.toList_ofList]
  constructor
  · intro h
    rw [h]
  · intro h
    have hjoined := congrArg (List.intercalate [':']) h
    rwa [List.intercalate_splitOn, List.intercalate_splitOn] at hjoined

private theorem ofText?_eq_some_iff {s : String} :
    ofText? s = some mac ↔
      (s.toLower.toList.splitOn ':').map Hex.unsigned = mac.octets.toList.map Hex.pair := by
  have hgroups (groups : List (List Char)) (octets : List UInt8) :
      groups.map Hex.octet? = octets.map some ↔
        (groups.map (List.map Char.toLower)).map Hex.unsigned = octets.map Hex.pair := by
    induction groups generalizing octets with
    | nil => cases octets <;> simp
    | cons group rest ih =>
      cases octets with
      | nil => simp
      | cons octet others =>
        simp only [List.map_cons, List.cons.injEq, Hex.octet?_eq_some_iff, ih]
  rw [ofText?, ofChars?_eq_some_iff, hgroups, ← splitOn_map_toLower (by decide), toList_toLower]

private theorem ofText?_text (mac : Mac) : ofText? mac.text = some mac := by
  rw [ofText?, text, String.toList_ofList, ofChars?_eq_some_iff, splitOn_chars, List.map_map]
  apply List.map_congr_left
  intro octet _
  exact Hex.octet?_pair octet

private theorem toLower_eq_text_iff_ofText? {s : String} :
    s.toLower = mac.text ↔ ofText? s = some mac ∧ '+' ∉ s.toList := by
  have hplus : '+' ∈ s.toList ↔ ∃ group ∈ s.toLower.toList.splitOn ':', '+' ∈ group := by
    rw [← mem_iff_mem_splitOn (by decide)]
    simp [toList_toLower, Hex.toLower_eq_iff]
  rw [toLower_eq_text_iff, ofText?_eq_some_iff, hplus]
  generalize s.toLower.toList.splitOn ':' = groups
  have hplain (h : ¬∃ group ∈ groups, '+' ∈ group) : groups.map Hex.unsigned = groups := by
    have hsame : groups.map Hex.unsigned = groups.map id := by
      apply List.map_congr_left
      intro group hgroup
      apply Hex.unsigned_of_not_mem
      intro hmem
      exact h ⟨group, hgroup, hmem⟩
    rw [hsame, List.map_id]
  constructor
  · rintro rfl
    have hnone : ¬∃ group ∈ mac.octets.toList.map Hex.pair, '+' ∈ group := by
      rintro ⟨group, hgroup, hmem⟩
      exact plus_not_mem_pairs hgroup hmem
    exact ⟨hplain hnone, hnone⟩
  · rintro ⟨hread, hnone⟩
    rwa [hplain hnone] at hread

private theorem isSome_ofText?_iff {s : String} :
    (ofText? s).isSome ↔ (s.toList.splitOn ':').length = 6 ∧
      ∀ group ∈ s.toList.splitOn ':', (Hex.octet? group).isSome := by
  generalize hgroups : s.toList.splitOn ':' = groups
  constructor
  · intro h
    obtain ⟨mac, hmac⟩ := Option.isSome_iff_exists.mp h
    have hread := ofChars?_eq_some_iff.mp hmac
    rw [hgroups] at hread
    constructor
    · simpa using congrArg List.length hread
    · intro group hgroup
      have hoctet : Hex.octet? group ∈ mac.octets.toList.map some := by
        rw [← hread]
        exact List.mem_map_of_mem hgroup
      obtain ⟨octet, -, hoctet⟩ := List.mem_map.mp hoctet
      rw [← hoctet]
      rfl
  · rintro ⟨hlength, hsome⟩
    have hread : groups.map Hex.octet? = (groups.filterMap Hex.octet?).map some := by
      rw [List.map_filterMap_some_eq_filter_map_isSome, List.filter_eq_self.mpr]
      simpa using hsome
    have hsize : (groups.filterMap Hex.octet?).toArray.size = 6 := by
      simpa [hlength] using (congrArg List.length hread).symm
    apply Option.isSome_iff_exists.mpr
    refine ⟨⟨_, hsize⟩, ?_⟩
    rw [ofText?, ofChars?_eq_some_iff, hgroups, hread]
    rfl

/--
A text is read as an address just if it consists of six groups with colons between them, each a
digit after a digit or a plus sign. What is read depends on neither the case of the letters nor on
whether a plus sign or a zero stands in front. The texts that are their address's own text, but for
the case of letters, are those without a plus sign, and every address's text is one of them.
-/
theorem reads_pairs_of_digits (s : String) (mac : Mac) :
    ((ofText? s).isSome ↔ (s.toList.splitOn ':').length = 6 ∧
      ∀ group ∈ s.toList.splitOn ':', ∃ high low, group = [high, low] ∧
        (high = '+' ∨ Hex.IsDigit high) ∧ Hex.IsDigit low) ∧
    (ofText? s = some mac ↔
      (s.toLower.toList.splitOn ':').map Hex.unsigned = mac.octets.toList.map Hex.pair) ∧
    (s.toLower = mac.text ↔ ofText? s = some mac ∧ '+' ∉ s.toList) ∧
    ofText? mac.text = some mac := by
  constructor
  · simp only [isSome_ofText?_iff, Hex.isSome_octet?_iff]
  · exact ⟨ofText?_eq_some_iff, toLower_eq_text_iff_ofText?, ofText?_text mac⟩

/-- Not every text that is read is the text of its address: `+0` is read as `00`. -/
theorem reads_more_than_written : ¬∀ s mac, ofText? s = some mac ↔ s.toLower = mac.text := by
  intro h
  have hread : ofText? "+0:40:ab:c4:80:f6" = some ⟨#v[0x00, 0x40, 0xab, 0xc4, 0x80, 0xf6]⟩ := by
    decide +kernel
  have hwritten := (h _ _).mp hread
  revert hwritten
  decide +kernel

end Mac

end AudioLink
