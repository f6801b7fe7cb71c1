import Mathlib
import Rv32.Proofs.WordText

/-!
# What a hexadecimal text reads as

A hexadecimal text has blanks around it, a marker or none, underscores among its digits, leading
zeros, and letters of either case. Only the number counts.

* `Text.IsHexDigit`, `Text.hexValue` : the digits and the number that they denote;
* `Word.IsHexBody text d` : of the text, `d` has to be digits; `Word.isHexBody_iff` : this is what
  is looked at;
* `Word.Spelling v` : a text of the number `v`; `Word.exists_spelling_iff` : these are the texts
  whose characters are digits;
* `Word.Spelling.ofHex_text` : a text is read by its number;
* `Word.ofHex_exact` : what is refused, and as what the rest is read.
-/

namespace Rv32

namespace Text

variable {c : Char} {cs : List Char} {v : Nat}

/-! ## Digits -/

/-- The hexadecimal digits in the order of their values. -/
def hexDigits : List Char :=
  ['0', '1', '2', '3', '4', '5', '6', '7', '8', '9', 'a', 'b', 'c', 'd', 'e', 'f']

def IsHexDigit (c : Char) : Prop := c.toLower ∈ hexDigits

instance (c : Char) : Decidable (IsHexDigit c) := inferInstanceAs (Decidable (_ ∈ _))

/-- The number that the characters denote in base sixteen. -/
def hexValue (cs : List Char) : Nat :=
  Nat.ofDigits 16 ((cs.map Char.toLower).reverse.map hexDigits.idxOf)

theorem hexDigit?_eq (c : Char) :
    hexDigit? c = if IsHexDigit c then some (hexDigits.idxOf c.toLower) else none := by
  revert c
  apply forall_char
  · decide +kernel
  intro c hc
  have hsmall : hexDigits.all fun x => x.toNat < 128 := by decide
  have hnone : hexDigit? c = none := by
    rw [Option.eq_none_iff_forall_ne_some]
    intro d hd
    have := hexDigit?_eq_some_iff.1 hd
    omega
  rw [hnone, if_neg]
  intro hdigit
  rw [IsHexDigit, toLower_of_le hc] at hdigit
  have : c.toNat < 128 := by simpa using List.all_eq_true.1 hsmall c hdigit
  omega

theorem hexDigit?_of_isHexDigit (h : IsHexDigit c) :
    hexDigit? c = some (hexDigits.idxOf c.toLower) := by
  rw [hexDigit?_eq, if_pos h]

theorem hexDigit?_eq_none_iff : hexDigit? c = none ↔ ¬ IsHexDigit c := by
  rw [hexDigit?_eq]
  split_ifs with h <;> simp [h]

theorem mapM_hexDigit? (h : ∀ c ∈ cs, IsHexDigit c) :
    cs.mapM hexDigit? = some ((cs.map Char.toLower).map hexDigits.idxOf) := by
  rw [mapM_eq_some_iff, List.map_map, List.map_map]
  exact List.map_congr_left fun c hc => hexDigit?_of_isHexDigit (h c hc)

theorem ofDigits_map_idxOf (cs : List Char) :
    ofDigits 16 ((cs.map Char.toLower).map hexDigits.idxOf) = hexValue cs := by
  rw [ofDigits_eq, hexValue, List.map_reverse]

theorem digitChar_idxOf (h : c ∈ hexDigits) : (hexDigits.idxOf c).digitChar = c := by
  have hall : hexDigits.all fun x => (hexDigits.idxOf x).digitChar == x := by decide
  exact beq_iff_eq.1 (List.all_eq_true.1 hall c h)

theorem digitChar_mem : ∀ d < 16, d.digitChar ∈ hexDigits := by decide

theorem idxOf_digitChar : ∀ d < 16, hexDigits.idxOf d.digitChar = d := by decide

theorem idxOf_toLower_eq_zero_iff (c : Char) : hexDigits.idxOf c.toLower = 0 ↔ c = '0' := by
  revert c
  apply forall_char
  · decide +kernel
  intro c hc
  rw [toLower_of_le hc]
  have hne : c ≠ '0' := by
    rintro rfl
    exact absurd hc (by decide)
  simp [hexDigits, List.idxOf_cons, hne, hne.symm]

/-! ## Numerals -/

/-- One digit at least, and nothing else. -/
def IsHexNumeral (cs : List Char) : Prop := cs ≠ [] ∧ ∀ c ∈ cs, IsHexDigit c

instance (cs : List Char) : Decidable (IsHexNumeral cs) :=
  decidable_of_iff (cs ≠ [] ∧ cs.all fun c => IsHexDigit c) (by simp [IsHexNumeral])

theorem toList_hex (v : Nat) : (hex v).toList = Nat.toDigits 16 v := by
  simp [hex, HexStyle.render, Padding.apply, List.leftpad]

/-- In lower case a numeral is the shortest one of its number, behind zeros. -/
theorem IsHexNumeral.exists_zeros (h : IsHexNumeral cs) :
    ∃ k, cs.map Char.toLower = List.replicate k '0' ++ (hex (hexValue cs)).toList := by
  have hlt : ∀ d ∈ (cs.map Char.toLower).map hexDigits.idxOf, d < 16 :=
    lt_of_mem_digits (mapM_hexDigit? h.2)
  have hchars : ((cs.map Char.toLower).map hexDigits.idxOf).map Nat.digitChar =
      cs.map Char.toLower := by
    rw [List.map_map, List.map_map]
    exact List.map_congr_left fun c hc => digitChar_idxOf (h.2 c hc)
  obtain ⟨k, hk⟩ := exists_zeros_append_toDigits (by decide) (by simpa using h.1) hlt
  refine ⟨k, ?_⟩
  rw [toList_hex, ← ofDigits_map_idxOf, ← hk, hchars]

theorem IsHexNumeral.of_zeros {k : Nat}
    (h : cs.map Char.toLower = List.replicate k '0' ++ (hex v).toList) :
    IsHexNumeral cs ∧ hexValue cs = v := by
  obtain ⟨ds, hne, hlt, hvalue, hchars⟩ := exists_toDigits (by decide : 1 < 16) v
  have hzeros : cs.map Char.toLower = (List.replicate k 0 ++ ds).map Nat.digitChar := by
    rw [h, toList_hex, hchars, List.map_append, List.map_replicate]
    rfl
  have hlt' : ∀ d ∈ List.replicate k 0 ++ ds, d < 16 := by
    intro d hd
    rcases List.mem_append.1 hd with hd | hd
    · rw [List.eq_of_mem_replicate hd]
      decide
    · exact hlt d hd
  refine ⟨⟨?_, fun c hc => ?_⟩, ?_⟩
  · rintro rfl
    simp [hne] at hzeros
  · have hmem : c.toLower ∈ (List.replicate k 0 ++ ds).map Nat.digitChar :=
      hzeros ▸ List.mem_map_of_mem hc
    obtain ⟨d, hd, hdc⟩ := List.mem_map.1 hmem
    rw [IsHexDigit, ← hdc]
    exact digitChar_mem d (hlt' d hd)
  · have hback : ((List.replicate k 0 ++ ds).map Nat.digitChar).map hexDigits.idxOf =
        List.replicate k 0 ++ ds := by
      rw [List.map_map]
      exact (List.map_congr_left fun d hd => idxOf_digitChar d (hlt' d hd)).trans (List.map_id _)
    rw [← ofDigits_map_idxOf, hzeros, hback, ofDigits_zeros_append, hvalue]

/-- Without leading zeros at most eight digits are left if and only if 32 bits hold the number. -/
theorem IsHexNumeral.length_dropWhile_le_iff (h : IsHexNumeral cs) :
    (cs.dropWhile (· == '0')).length ≤ 8 ↔ hexValue cs < 2 ^ 32 := by
  have hzero : (fun d => d == 0) ∘ hexDigits.idxOf ∘ Char.toLower = fun c => c == '0' := by
    funext c
    rw [Bool.eq_iff_iff]
    simpa using idxOf_toLower_eq_zero_iff c
  have hdrop := dropWhile_zero_eq_digits (by decide) (lt_of_mem_digits (mapM_hexDigit? h.2))
  rw [ofDigits_map_idxOf, List.map_map, List.dropWhile_map, hzero] at hdrop
  have hlength := congrArg List.length hdrop
  rw [List.length_map, List.length_reverse] at hlength
  rw [hlength, ← Nat.not_lt, Nat.lt_digits_length_iff (by decide), Nat.not_le]
  rfl

end Text

namespace Word

variable {t : String} {d : List Char} {v : Nat} {w : Word}

/-! ## Texts of numbers -/

/-- What has to be digits in the text: the characters between the blanks at either end, behind one
marker if there is one, underscores apart. -/
def IsHexBody (text : String) (d : List Char) : Prop :=
  ∃ inner rest, Text.Trims text.toList inner ∧ Text.Follows markers inner rest ∧
    d = rest.filter (· != '_')

theorem follows_markers_iff {cs rest : List Char} :
    Text.Follows markers cs rest ↔ rest = dropMarker cs := by
  refine Text.follows_iff (fun mark hmark cs => ?_) fun cs h => ?_
  · simp only [markers, List.mem_cons, List.not_mem_nil, or_false] at hmark
    rcases hmark with rfl | rfl <;> rfl
  · unfold dropMarker
    split
    · exact absurd ⟨_, rfl⟩ (h ['0', 'x'] (by simp [markers]))
    · exact absurd ⟨_, rfl⟩ (h ['0', 'X'] (by simp [markers]))
    · rfl

theorem isHexBody_iff : IsHexBody t d ↔ d = hexBody t := by
  simp [IsHexBody, Text.trims_iff, follows_markers_iff, hexBody]

/-- A way to write the number `v`: blanks around, a marker or none, and characters that are leading
zeros and the shortest numeral but for underscores and the case of letters. -/
structure Spelling (v : Nat) where
  before : List Char
  marker : List Char
  body : List Char
  after : List Char
  zeros : Nat
  blank_before : ∀ c ∈ before, Text.isBlank c
  blank_after : ∀ c ∈ after, Text.isBlank c
  marker_eq : marker = [] ∨ marker ∈ markers
  digits_eq : (body.filter (· != '_')).map Char.toLower =
    List.replicate zeros '0' ++ (Text.hex v).toList

namespace Spelling

def text (s : Spelling v) : String :=
  String.ofList (s.before ++ (s.marker ++ s.body) ++ s.after)

theorem hexBody_text (s : Spelling v) : hexBody s.text = s.body.filter (· != '_') := by
  refine hexBody_frame s.blank_before s.blank_after s.marker_eq fun c hc => ?_
  by_cases hc' : c = '_'
  · exact .inl hc'
  · have hdigit := (Text.IsHexNumeral.of_zeros s.digits_eq).1.2 c
      (List.mem_filter.2 ⟨hc, bne_iff_ne.2 hc'⟩)
    exact .inr ⟨_, Text.hexDigit?_of_isHexDigit hdigit⟩

/-- The shortest numeral. -/
def shortest (v : Nat) : Spelling v where
  before := []
  marker := []
  body := (Text.hex v).toList
  after := []
  zeros := 0
  blank_before := List.forall_mem_nil _
  blank_after := List.forall_mem_nil _
  marker_eq := .inl rfl
  digits_eq := by
    obtain ⟨ds, -, hlt, -, hchars⟩ := Text.exists_toDigits (by decide : 1 < 16) v
    have hplain : ∀ d < 16, (d.digitChar != '_') = true ∧ d.digitChar.toLower = d.digitChar := by
      decide
    rw [Text.toList_hex, hchars, List.filter_eq_self.2, List.map_map]
    · exact List.map_congr_left fun d hd => (hplain d (hlt d hd)).2
    · intro c hc
      obtain ⟨d, hd, rfl⟩ := List.mem_map.1 hc
      exact (hplain d (hlt d hd)).1

theorem text_shortest (v : Nat) : (shortest v).text = Text.hex v := by
  simp [shortest, text]

end Spelling

theorem exists_spelling_iff : (∃ s : Spelling v, s.text = t) ↔
    Text.IsHexNumeral (hexBody t) ∧ Text.hexValue (hexBody t) = v := by
  constructor
  · rintro ⟨s, rfl⟩
    rw [s.hexBody_text]
    exact Text.IsHexNumeral.of_zeros s.digits_eq
  · rintro ⟨hnumeral, rfl⟩
    -- the parts of the spelling are those that reading takes away
    obtain ⟨inner, rest, htrims, hfollows, hbody⟩ := isHexBody_iff.2 (rfl : hexBody t = hexBody t)
    obtain ⟨before, after, htext, hbefore, hafter⟩ := htrims.exists_frame
    obtain ⟨k, hk⟩ := hnumeral.exists_zeros
    obtain ⟨marker, hmarker, hinner⟩ : ∃ marker, (marker = [] ∨ marker ∈ markers) ∧
        inner = marker ++ rest := by
      rcases hfollows with ⟨marker, hmarker, h⟩ | ⟨-, h⟩
      · exact ⟨marker, .inr hmarker, h⟩
      · exact ⟨[], .inl rfl, h.symm⟩
    refine ⟨⟨before, marker, rest, after, k, hbefore, hafter, hmarker, hbody ▸ hk⟩, ?_⟩
    rw [Spelling.text, ← hinner, ← htext, String.ofList_toList]

/-! ## Reading -/

/-- The number is that of a word as long as its low two bits say. -/
def IsWordValue (v : Nat) : Prop := v < 2 ^ 32 ∧ (v % 4 = 3 ∨ v < 2 ^ 16)

theorem isWordValue_iff : IsWordValue v ↔ v < 2 ^ 32 ∧ v < 2 ^ (Width.select v).bits := by
  unfold IsWordValue Width.select
  split_ifs with h
  · simp [h, Width.bits]
  · simp [h, Width.bits]

theorem value_ofValue (h : IsWordValue v) : (ofValue v).value.toNat = v :=
  toNat_value_ofNat (isWordValue_iff.1 h).2

theorem ofHexDigits_of_isWordValue (h : IsWordValue v) :
    ofHexDigits (Nat.digits 16 v).reverse = .ok (ofValue v) := by
  obtain ⟨hlong, hwide⟩ := isWordValue_iff.1 h
  rw [ofHexDigits_digits, if_neg (Nat.not_le.2 hlong), if_neg (Nat.not_le.2 hwide)]

theorem ofHexDigits_of_not_isWordValue (h : ¬ IsWordValue v) :
    ∃ n, ofHexDigits (Nat.digits 16 v).reverse = .error (.invalidWidth n) := by
  rw [isWordValue_iff, not_and_or, Nat.not_lt, Nat.not_lt] at h
  rw [ofHexDigits_digits]
  split_ifs with hlong hwide
  · exact ⟨_, rfl⟩
  · exact ⟨_, rfl⟩
  · exact absurd h (not_or.2 ⟨hlong, hwide⟩)

theorem ofHexDigits_eq_ok_iff :
    ofHexDigits (Nat.digits 16 v).reverse = .ok w ↔ IsWordValue v ∧ w = ofValue v := by
  by_cases h : IsWordValue v
  · rw [ofHexDigits_of_isWordValue h, Except.ok.injEq]
    exact ⟨fun hw => ⟨h, hw.symm⟩, fun hw => hw.2.symm⟩
  · obtain ⟨n, hn⟩ := ofHexDigits_of_not_isWordValue h
    simp [hn, h]

theorem exists_ofHexDigits_eq_error_iff :
    (∃ n, ofHexDigits (Nat.digits 16 v).reverse = .error (.invalidWidth n)) ↔
      ¬ IsWordValue v := by
  refine ⟨?_, ofHexDigits_of_not_isWordValue⟩
  rintro ⟨n, hn⟩ h
  rw [ofHexDigits_of_isWordValue h] at hn
  cases hn

theorem ofHex_of_isHexNumeral (h : Text.IsHexNumeral (hexBody t)) :
    ofHex t = ofHexDigits (Nat.digits 16 (Text.hexValue (hexBody t))).reverse := by
  rw [ofHex_eq (Text.mapM_hexDigit? h.2) (by simpa using h.1), Text.ofDigits_map_idxOf]

/-- A text is read by the number that it is a text of. -/
theorem Spelling.ofHex_text (s : Spelling v) :
    ofHex s.text = ofHexDigits (Nat.digits 16 v).reverse := by
  obtain ⟨hnumeral, hvalue⟩ := exists_spelling_iff.1 ⟨s, rfl⟩
  rw [ofHex_of_isHexNumeral hnumeral, hvalue]

theorem ofHex_of_not_isHexNumeral (h : ¬ Text.IsHexNumeral (hexBody t)) :
    ofHex t = .error (.malformedHex t) := by
  unfold ofHex
  by_cases hnil : hexBody t = []
  · rw [hnil]
    rfl
  · have hbad : ∃ c ∈ hexBody t, ¬ Text.IsHexDigit c := by
      by_contra hall
      exact h ⟨hnil, fun c hc => by_contra fun hdigit => hall ⟨c, hc, hdigit⟩⟩
    obtain ⟨c, hc, hdigit⟩ := hbad
    rw [Text.mapM_eq_none_iff.2 ⟨c, hc, Text.hexDigit?_eq_none_iff.2 hdigit⟩]

theorem ofHex_eq_malformed_iff {u : String} :
    ofHex t = .error (.malformedHex u) ↔ u = t ∧ ¬ Text.IsHexNumeral (hexBody t) := by
  by_cases h : Text.IsHexNumeral (hexBody t)
  · refine iff_of_false (fun herror => ?_) fun hu => hu.2 h
    rw [ofHex_of_isHexNumeral h] at herror
    by_cases hvalue : IsWordValue (Text.hexValue (hexBody t))
    · rw [ofHexDigits_of_isWordValue hvalue] at herror
      cases herror
    · obtain ⟨n, hn⟩ := ofHexDigits_of_not_isWordValue hvalue
      rw [hn] at herror
      cases herror
  · rw [ofHex_of_not_isHexNumeral h]
    simp [h, eq_comm]

/-- A text is malformed, and reported as it was given, if between its blanks and behind its marker
there is nothing but underscores, or a character that is no digit. Any other text is one of a single
number, which is read as the word of this value and of the width that the value selects, or as too
wide if it has no such word; the way in which the number is written does not count. -/
theorem ofHex_exact (t : String) :
    (∀ d, IsHexBody t d ↔ d = hexBody t) ∧
    (∀ u, ofHex t = .error (.malformedHex u) ↔
      u = t ∧ (hexBody t = [] ∨ ∃ c ∈ hexBody t, ¬ Text.IsHexDigit c)) ∧
    (∀ v, (∃ s : Spelling v, s.text = t) ↔
      Text.IsHexNumeral (hexBody t) ∧ Text.hexValue (hexBody t) = v) ∧
    ∀ v, Text.IsHexNumeral (hexBody t) → Text.hexValue (hexBody t) = v →
      ((∃ w, ofHex t = .ok w) ↔ v < 2 ^ 32 ∧ (v % 4 = 3 ∨ v < 2 ^ 16)) ∧
      (∀ w, ofHex t = .ok w → w.value.toNat = v ∧ w.width = Width.select v) ∧
      ((∃ n, ofHex t = .error (.invalidWidth n)) ↔ ¬ (v < 2 ^ 32 ∧ (v % 4 = 3 ∨ v < 2 ^ 16))) ∧
      (((hexBody t).dropWhile (· == '0')).length ≤ 8 ↔ v < 2 ^ 32) ∧
      ofHex t = ofHex (Text.hex v) := by
  refine ⟨fun d => isHexBody_iff, fun u => ?_, fun v => exists_spelling_iff, ?_⟩
  · rw [ofHex_eq_malformed_iff, Text.IsHexNumeral, not_and_or, not_not]
    simp only [not_forall, exists_prop]
  · rintro v hnumeral rfl
    have hread := ofHex_of_isHexNumeral hnumeral
    have hshortest := (Spelling.shortest (Text.hexValue (hexBody t))).ofHex_text
    rw [Spelling.text_shortest] at hshortest
    rw [hread]
    refine ⟨?_, fun w hw => ?_, exists_ofHexDigits_eq_error_iff,
      hnumeral.length_dropWhile_le_iff, hshortest.symm⟩
    · simp only [ofHexDigits_eq_ok_iff, exists_and_left, exists_eq, and_true]
      rfl
    · obtain ⟨hvalue, rfl⟩ := ofHexDigits_eq_ok_iff.1 hw
      exact ⟨value_ofValue hvalue, width_ofNat _ _⟩

/-- Blanks, the other marker, an underscore and leading zeros around the numeral `10003` of a full
word; a number that selects half a word and needs 17 bits; and an underscore that hides a marker. -/
theorem ofHex_spaced_numeral :
    ofHex " 0X0001_0003\n" = ofHex "10003" ∧
    (∃ w, ofHex " 0X0001_0003\n" = .ok w ∧ w.value.toNat = 0x10003 ∧ w.width = .full) ∧
    (∃ n, ofHex "0x1_0000" = .error (.invalidWidth n)) ∧
    ofHex "0_x1" = .error (.malformedHex "0_x1") := by
  have hspaced : Text.IsHexNumeral (hexBody " 0X0001_0003\n") := by decide
  have hwide : Text.IsHexNumeral (hexBody "0x1_0000") := by decide
  obtain ⟨hok, hword, -, -, hshortest⟩ := (ofHex_exact _).2.2.2 0x10003 hspaced (by decide)
  obtain ⟨w, hw⟩ := hok.2 (by decide)
  obtain ⟨hvalue, hwidth⟩ := hword w hw
  refine ⟨hshortest, ⟨w, hw, hvalue, hwidth⟩, ?_, ?_⟩
  · exact ((ofHex_exact _).2.2.2 0x10000 hwide (by decide)).2.2.1.2 (by decide)
  · exact ((ofHex_exact "0_x1").2.1 _).2 ⟨rfl, .inr ⟨'x', by decide, by decide⟩⟩

end Word

end Rv32
