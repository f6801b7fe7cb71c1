import Mathlib
import Rv32.Proofs.HexText

/-!
# Words written and read back

* `Word.text_eq_binary` : the text of a word is the binary numeral of its value, with zeros in front
  up to its length;
* `Word.ofBits_eq_ok_iff` : a text is read as the word whose text it is;
* `Word.ofBits_eq_invalidWidth_iff`, `Word.ofBits_eq_malformed_iff` : the other texts, by their
  length and by their characters;
* `Word.ofHex_render_iff` : a hexadecimal numeral of the value gives the word back if the low two
  bits select its width;
* `Word.text_round_trip` : all of this together.
-/

namespace Rv32

namespace Text

variable {c : Char} {cs : List Char} {d : Nat} {ds : List Nat}

theorem binaryDigit?_eq_some_iff :
    binaryDigit? c = some d ↔ (c = '0' ∧ d = 0) ∨ (c = '1' ∧ d = 1) := by
  unfold binaryDigit?
  split <;> simp_all [eq_comm]

theorem binaryDigit?_eq_none_iff : binaryDigit? c = none ↔ c ≠ '0' ∧ c ≠ '1' := by
  unfold binaryDigit?
  split <;> simp_all

theorem eq_of_mapM_binaryDigit? (h : cs.mapM binaryDigit? = some ds) :
    cs = ds.map Nat.digitChar ∧ ∀ d ∈ ds, d < 2 := by
  induction cs generalizing ds with
  | nil =>
    cases h
    exact ⟨rfl, List.forall_mem_nil _⟩
  | cons c cs ih =>
    rw [mapM_eq_some_iff] at h
    cases ds with
    | nil => cases h
    | cons d ds =>
      rw [List.map_cons, List.map_cons, List.cons.injEq, binaryDigit?_eq_some_iff] at h
      obtain ⟨hcs, hds⟩ := ih (mapM_eq_some_iff.2 h.2)
      rw [List.map_cons, List.forall_mem_cons, ← hcs]
      rcases h.1 with ⟨rfl, rfl⟩ | ⟨rfl, rfl⟩
      · exact ⟨rfl, by decide, hds⟩
      · exact ⟨rfl, by decide, hds⟩

end Text

namespace Word

variable {t : String} {w : Word} {n : Nat}

/-! ## Binary digits -/

theorem length_pos (w : Word) : 0 < w.length := by
  cases w with
  | half b => exact Nat.zero_lt_succ 15
  | full b => exact Nat.zero_lt_succ 31

theorem text_eq_binary (w : Word) : w.text = Text.binary w.length w.value.toNat := by
  obtain ⟨hchars, hlt⟩ := Text.eq_of_mapM_binaryDigit? w.mapM_binaryDigit?_text
  have hne : w.bits.map Bool.toNat ≠ [] := by
    rw [← List.length_pos_iff, List.length_map, length_bits]
    exact w.length_pos
  obtain ⟨k, hk⟩ := Text.exists_zeros_append_toDigits (by decide) hne hlt
  rw [← hchars, ofDigits_bits] at hk
  have hlength := congrArg List.length hk
  rw [length_text, List.length_append, List.length_replicate] at hlength
  rw [Text.binary, List.leftpad, hlength, Nat.add_sub_cancel, ← hk, String.ofList_toList]

theorem width?_eq_some_iff {k : Width} : width? n = some k ↔ n = k.bits := by
  unfold width?
  split_ifs with h₁ h₂ <;> cases k <;> simp_all [Width.bits]

theorem width?_eq_none_iff : width? n = none ↔ n ≠ 16 ∧ n ≠ 32 := by
  unfold width?
  split_ifs with h₁ h₂ <;> simp_all

/-- Binary digits, as many as a word has, are those of the word of their number. -/
theorem text_ofNat {k : Width} {cs : List Char} {ds : List Nat} (hlength : cs.length = k.bits)
    (h : cs.mapM Text.binaryDigit? = some ds) :
    (ofNat k (Text.ofDigits 2 ds)).text = String.ofList cs := by
  obtain ⟨rfl, hlt⟩ := Text.eq_of_mapM_binaryDigit? h
  rw [List.length_map] at hlength
  generalize hw : ofNat k (Text.ofDigits 2 ds) = w
  obtain ⟨hchars, hlt'⟩ := Text.eq_of_mapM_binaryDigit? w.mapM_binaryDigit?_text
  have hfits : Text.ofDigits 2 ds < 2 ^ k.bits := by
    rw [Text.ofDigits_eq, ← hlength, ← List.length_reverse]
    exact Nat.ofDigits_lt_base_pow_length (by decide) fun d hd => hlt d (List.mem_reverse.1 hd)
  have hvalue : Text.ofDigits 2 (w.bits.map Bool.toNat) = Text.ofDigits 2 ds := by
    rw [ofDigits_bits, ← hw, toNat_value_ofNat hfits]
  -- as many digits on either side, and one number: the digits are the same
  have hbits : (w.bits.map Bool.toNat).reverse = ds.reverse := by
    refine Nat.ofDigits_inj_of_len_eq (by decide) ?_ (fun d hd => hlt' d (List.mem_reverse.1 hd))
      (fun d hd => hlt d (List.mem_reverse.1 hd)) ?_
    · rw [List.length_reverse, List.length_reverse, List.length_map, length_bits, hlength, ← hw,
        length, width_ofNat]
    · rw [← Text.ofDigits_eq, ← Text.ofDigits_eq, hvalue]
  rw [← List.reverse_injective hbits, ← hchars, String.ofList_toList]

theorem ofBits_eq_ok_iff : ofBits t = .ok w ↔ w.text = t := by
  constructor
  · intro h
    unfold ofBits at h
    split at h
    · cases h
    · next k hk =>
      split at h
      · cases h
      · next ds hds =>
        cases h
        rw [text_ofNat (width?_eq_some_iff.1 hk) hds, String.ofList_toList]
  · rintro rfl
    exact w.ofBits_text

theorem ofBits_eq_invalidWidth_iff :
    ofBits t = .error (.invalidWidth n) ↔ n = t.length ∧ n ≠ 16 ∧ n ≠ 32 := by
  unfold ofBits
  rw [String.length_toList]
  cases hk : width? t.length with
  | none =>
    have hne := width?_eq_none_iff.1 hk
    simp only [Except.error.injEq, DecodeError.invalidWidth.injEq]
    constructor
    · rintro rfl
      exact ⟨rfl, hne⟩
    · exact fun h => h.1.symm
  | some k =>
    refine iff_of_false ?_ ?_
    · cases t.toList.mapM Text.binaryDigit? <;> simp
    · rintro ⟨rfl, hne⟩
      rw [width?_eq_none_iff.2 hne] at hk
      cases hk

theorem ofBits_eq_malformed_iff {u : String} : ofBits t = .error (.malformedBits u) ↔
    u = t ∧ (t.length = 16 ∨ t.length = 32) ∧ ∃ c ∈ t.toList, c ≠ '0' ∧ c ≠ '1' := by
  have hnone : t.toList.mapM Text.binaryDigit? = none ↔ ∃ c ∈ t.toList, c ≠ '0' ∧ c ≠ '1' := by
    simp only [Text.mapM_eq_none_iff, Text.binaryDigit?_eq_none_iff]
  have hlength : (t.length = 16 ∨ t.length = 32) ↔ width? t.length ≠ none := by
    rw [Ne, width?_eq_none_iff]
    omega
  unfold ofBits
  rw [← hnone, hlength, String.length_toList]
  cases width? t.length with
  | none => simp
  | some k => cases t.toList.mapM Text.binaryDigit? <;> simp [eq_comm]

/-! ## Hexadecimal numerals -/

theorem isCoherent_of_ofHex (h : ofHex t = .ok w) : w.IsCoherent := by
  by_cases hnumeral : Text.IsHexNumeral (hexBody t)
  · rw [ofHex_of_isHexNumeral hnumeral] at h
    obtain ⟨hvalue, rfl⟩ := ofHexDigits_eq_ok_iff.1 h
    rw [IsCoherent, value_ofValue hvalue, ofValue, width_ofNat]
  · rw [ofHex_of_not_isHexNumeral hnumeral] at h
    cases h

theorem ofHex_render_iff {style : Text.HexStyle} (hs : style.padding = .zeros ∨ style.width = 0) :
    ofHex (style.render w.value.toNat) = .ok w ↔ w.IsCoherent :=
  ⟨isCoherent_of_ofHex, fun hw => ofHex_render hw hs⟩

/-- The value of a word fits its length. Its text has one binary digit for each bit, and is read as
the word and nothing else; a text that is that of no word is refused for its length, or else for a
character. A numeral of the value in base sixteen, in either case, with or without marker and zeros
in front, is read as the word if and only if the low two bits select its width. -/
theorem text_round_trip :
    (∀ w : Word, w.value.toNat < 2 ^ w.length ∧ w.text = Text.binary w.length w.value.toNat ∧
      w.text.length = w.length ∧ ofBits w.text = .ok w) ∧
    (∀ t : String,
      (∀ w, ofBits t = .ok w → w.text = t) ∧
      (∀ n, ofBits t = .error (.invalidWidth n) ↔ n = t.length ∧ n ≠ 16 ∧ n ≠ 32) ∧
      (∀ u, ofBits t = .error (.malformedBits u) ↔
        u = t ∧ (t.length = 16 ∨ t.length = 32) ∧ ∃ c ∈ t.toList, c ≠ '0' ∧ c ≠ '1')) ∧
    (∀ (w : Word) (style : Text.HexStyle), style.padding = .zeros ∨ style.width = 0 →
      (ofHex (style.render w.value.toNat) = .ok w ↔ Width.select w.value.toNat = w.width)) := by
  refine ⟨fun w => ⟨w.toNat_value_lt, w.text_eq_binary, ?_, w.ofBits_text⟩,
    fun t => ⟨fun w => ofBits_eq_ok_iff.1, fun n => ofBits_eq_invalidWidth_iff,
      fun u => ofBits_eq_malformed_iff⟩, fun w style hs => ofHex_render_iff hs⟩
  rw [← String.length_toList, length_text]

/-- A full word from five numerals of its value; half a word that no numeral gives back, since its
low bits select a full one; and a text of half a word, one of no length and one of no digits. -/
theorem text_round_trip_addi :
    (∀ style : Text.HexStyle, style ∈ [{}, { marked := true }, { width := 8, padding := .zeros },
        { upper := true }, { upper := true, marked := true }] →
      ofHex (style.render (full 0x50293).value.toNat) = .ok (full 0x50293)) ∧
    ofHex "0x293" ≠ .ok (half 0x293) ∧
    (∃ w, ofBits "0100010100000001" = .ok w ∧ w.text = "0100010100000001") ∧
    ofBits "0101" = .error (.invalidWidth 4) ∧
    ofBits "010001010000000x" = .error (.malformedBits "010001010000000x") := by
  obtain ⟨-, hbits, hhex⟩ := text_round_trip
  obtain ⟨w, hw⟩ : ∃ w, ofBits "0100010100000001" = .ok w := ⟨_, rfl⟩
  refine ⟨fun style hstyle => ?_, ?_, ⟨w, hw, (hbits _).1 w hw⟩, ?_, ?_⟩
  · refine (hhex (full 0x50293) style ?_).2 rfl
    simp only [List.mem_cons, List.not_mem_nil, or_false] at hstyle
    rcases hstyle with rfl | rfl | rfl | rfl | rfl
    · exact .inr rfl
    · exact .inr rfl
    · exact .inl rfl
    · exact .inr rfl
    · exact .inr rfl
  · exact mt (hhex (half 0x293) { marked := true } (.inr rfl)).1 (by decide)
  · exact ((hbits _).2.1 4).2 ⟨rfl, by decide, by decide⟩
  · exact ((hbits _).2.2 _).2 ⟨rfl, .inl rfl, 'x', by decide, by decide, by decide⟩

end Word

end Rv32
