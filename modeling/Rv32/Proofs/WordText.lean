import Mathlib
import Rv32.Proofs.Numeral
import Rv32.Proofs.Trimming
import Rv32.Word.Text

/-!
# Words read from text

A word is read back from its binary digits, and from any hexadecimal numeral of its value if its low
two bits select its width.

* `Word.bits_eq_map_range` : the bits of a word by their positions, from the most significant down;
* `Word.ofBits_text` : reading the binary digits of a word gives the word;
* `Word.hexBody_frame` : what is left of a text of digits between blanks and behind a marker;
* `Word.ofHex_eq` : a text of hexadecimal digits is read by the number it denotes, whatever its
  leading zeros;
* `Word.ofHexDigits_digits` : the number is a word if it fits into the width that it selects;
* `Word.ofHex_render` : reading a numeral of the value of a coherent word gives the word.
-/

namespace Rv32

namespace Text

variable {c : Char} {cs : List Char} {ds : List Nat}

theorem exists_hexDigit?_of_mem (h : cs.mapM hexDigit? = some ds) (hc : c ∈ cs) :
    ∃ d, hexDigit? c = some d := by
  have hmem : hexDigit? c ∈ ds.map some := mapM_eq_some_iff.1 h ▸ List.mem_map_of_mem hc
  obtain ⟨d, -, hd⟩ := List.mem_map.1 hmem
  exact ⟨d, hd.symm⟩

theorem lt_of_mem_digits (h : cs.mapM hexDigit? = some ds) : ∀ d ∈ ds, d < 16 := by
  intro d hd
  have hmem : some d ∈ cs.map hexDigit? := mapM_eq_some_iff.1 h ▸ List.mem_map_of_mem hd
  obtain ⟨c, -, hc⟩ := List.mem_map.1 hmem
  have := hexDigit?_eq_some_iff.1 hc
  omega

/-- The first `k` of `n` bits denote the number without its low `n - k` bits. -/
theorem ofDigits_testBit {v n k : Nat} (hv : v < 2 ^ n) (hk : k ≤ n) :
    ofDigits 2 ((List.range k).map fun i => (v.testBit (n - 1 - i)).toNat) = v / 2 ^ (n - k) := by
  induction k with
  | zero => simp [ofDigits, Nat.div_eq_of_lt hv]
  | succ k ih =>
    have hsplit : n - k = n - 1 - k + 1 := by omega
    have hnext : n - (k + 1) = n - 1 - k := by omega
    rw [List.range_succ, List.map_append, List.map_singleton, ofDigits_concat, ih (by omega),
      Nat.toNat_testBit, hsplit, hnext, Nat.pow_succ, ← Nat.div_div_eq_div_mul, Nat.div_add_mod]

end Text

namespace Word

theorem toNat_value_half (b : BitVec 16) : (half b).value.toNat = b.toNat :=
  BitVec.toNat_setWidth_of_le (by decide)

theorem toNat_value_lt (w : Word) : w.value.toNat < 2 ^ w.width.bits := by
  cases w with
  | half b => exact toNat_value_half b ▸ b.isLt
  | full b => exact b.isLt

theorem toNat_value_ofNat {k : Width} {v : Nat} (h : v < 2 ^ k.bits) :
    (ofNat k v).value.toNat = v := by
  cases k with
  | half =>
    rw [ofNat, toNat_value_half, BitVec.toNat_ofNat]
    exact Nat.mod_eq_of_lt h
  | full =>
    rw [ofNat, value, BitVec.toNat_ofNat]
    exact Nat.mod_eq_of_lt h

/-! ## Binary digits -/

theorem bits_eq_map_range (w : Word) :
    w.bits = (List.range w.length).map fun i => w.value.getLsbD (w.length - 1 - i) := by
  have hrange {n : Nat} (b : BitVec n) : (List.finRange n).map (fun i => b.getMsb i) =
      (List.range n).map fun i => b.getLsbD (n - 1 - i) := by
    rw [← List.map_coe_finRange_eq_range, List.map_map]
    rfl
  cases w with
  | half b =>
    rw [bits, hrange]
    refine List.map_congr_left fun i _ => ?_
    simp [value, length, width, Width.bits, show 15 - i < 32 by omega]
  | full b => exact hrange b

theorem ofDigits_bits (w : Word) : Text.ofDigits 2 (w.bits.map Bool.toNat) = w.value.toNat := by
  have h := Text.ofDigits_testBit w.toNat_value_lt (Nat.le_refl _)
  rw [Nat.sub_self, Nat.pow_zero, Nat.div_one] at h
  rw [bits_eq_map_range, List.map_map]
  exact h

theorem width?_length (w : Word) : width? w.length = some w.width := by cases w <;> rfl

theorem length_text (w : Word) : w.text.toList.length = w.length := by simp [text]

theorem mapM_binaryDigit?_text (w : Word) :
    w.text.toList.mapM Text.binaryDigit? = some (w.bits.map Bool.toNat) := by
  rw [Text.mapM_eq_some_iff, text, String.toList_ofList, List.map_map, List.map_map]
  refine List.map_congr_left fun b _ => ?_
  cases b <;> rfl

theorem ofBits_text (w : Word) : ofBits w.text = .ok w := by
  rw [ofBits, length_text, width?_length]
  simp only [mapM_binaryDigit?_text, ofDigits_bits, ofNat_value]

/-! ## Hexadecimal numbers -/

variable {w : Word} {cs : List Char} {ds : List Nat} {text : String}

/-- The base markers. -/
def markers : List (List Char) := [['0', 'x'], ['0', 'X']]

theorem dropMarker_of_forall (h : ∀ c ∈ cs, c ≠ 'x' ∧ c ≠ 'X') : dropMarker cs = cs := by
  unfold dropMarker
  split <;> simp_all

/-- Between blanks and behind a marker or none, the digits and underscores are left, and of these
the digits. -/
theorem hexBody_frame {before marker body after : List Char}
    (hbefore : ∀ c ∈ before, Text.isBlank c) (hafter : ∀ c ∈ after, Text.isBlank c)
    (hmarker : marker = [] ∨ marker ∈ markers)
    (hbody : ∀ c ∈ body, c = '_' ∨ ∃ d, Text.hexDigit? c = some d) :
    hexBody (String.ofList (before ++ (marker ++ body) ++ after)) = body.filter (· != '_') := by
  have hchar : ∀ c ∈ body, ¬ Text.isBlank c ∧ c ≠ 'x' ∧ c ≠ 'X' := by
    intro c hc
    obtain rfl | ⟨d, hd⟩ := hbody c hc
    · decide
    · refine ⟨by simp [Text.not_isBlank_of_hexDigit? hd], ?_, ?_⟩ <;> rintro rfl <;> cases hd
  have hmark : ∀ c ∈ marker, ¬ Text.isBlank c := by
    simp only [markers, List.mem_cons, List.not_mem_nil, or_false] at hmarker
    rcases hmarker with rfl | rfl | rfl <;>
      simp [Text.isBlank, Text.CodePoints.has, Text.blanks]
  have htrim : Text.trim (before ++ (marker ++ body) ++ after) = marker ++ body :=
    Text.trim_frame hbefore hafter fun c hc =>
      (List.mem_append.1 hc).elim (hmark c) fun hc => (hchar c hc).1
  have hdrop : dropMarker (marker ++ body) = body := by
    simp only [markers, List.mem_cons, List.not_mem_nil, or_false] at hmarker
    rcases hmarker with rfl | rfl | rfl
    · exact dropMarker_of_forall fun c hc => (hchar c hc).2
    · rfl
    · rfl
  rw [hexBody, String.toList_ofList, htrim, hdrop]

theorem hexBody_ofList (marked : Bool) (h : cs.mapM Text.hexDigit? = some ds) :
    hexBody (String.ofList ((if marked then ['0', 'x'] else []) ++ cs)) = cs := by
  have hdigit : ∀ c ∈ cs, ∃ d, Text.hexDigit? c = some d :=
    fun c hc => Text.exists_hexDigit?_of_mem h hc
  have hmarker : (if marked then ['0', 'x'] else []) = [] ∨
      (if marked then ['0', 'x'] else []) ∈ markers := by
    cases marked <;> simp [markers]
  have hframe := hexBody_frame (List.forall_mem_nil _) (List.forall_mem_nil _) hmarker
    fun c hc => .inr (hdigit c hc)
  rw [List.nil_append, List.append_nil] at hframe
  rw [hframe, List.filter_eq_self]
  rintro c hc
  obtain ⟨d, hd⟩ := hdigit c hc
  rw [bne_iff_ne]
  rintro rfl
  cases hd

theorem ofHex_eq (h : (hexBody text).mapM Text.hexDigit? = some ds) (hne : ds ≠ []) :
    ofHex text = ofHexDigits (Nat.digits 16 (Text.ofDigits 16 ds)).reverse := by
  rw [← Text.dropWhile_zero_eq_digits (by decide) (Text.lt_of_mem_digits h), ofHex, h]
  cases ds with
  | nil => exact absurd rfl hne
  | cons d ds => rfl

theorem ofHexDigits_digits (v : Nat) :
    ofHexDigits (Nat.digits 16 v).reverse =
      if 2 ^ 32 ≤ v then .error (.invalidWidth (4 * (Nat.digits 16 v).length))
      else if 2 ^ (Width.select v).bits ≤ v then .error (.invalidWidth (Text.bitLength v))
      else .ok (ofValue v) := by
  have hvalue : Text.ofDigits 16 (Nat.digits 16 v).reverse = v := by
    rw [Text.ofDigits_eq, List.reverse_reverse, Nat.ofDigits_digits]
  have hlong : 8 < (Nat.digits 16 v).length ↔ 2 ^ 32 ≤ v :=
    Nat.lt_digits_length_iff (by decide) v
  have hwide : (Width.select v).bits < Text.bitLength v ↔ 2 ^ (Width.select v).bits ≤ v := by
    rw [← Nat.not_le, Text.bitLength_le_iff, Nat.not_lt]
  simp only [ofHexDigits, hvalue, List.length_reverse, hlong, hwide]

theorem ofValue_value (hw : w.IsCoherent) : ofValue w.value.toNat = w := by
  rw [ofValue, hw, ofNat_value]

theorem ofHex_render (hw : w.IsCoherent) {style : Text.HexStyle}
    (hs : style.padding = .zeros ∨ style.width = 0) :
    ofHex (style.render w.value.toNat) = .ok w := by
  obtain ⟨cs, ds, hne, hvalue, hdigits, hrender⟩ := Text.HexStyle.exists_render hs w.value.toNat
  have hbody : (hexBody (style.render w.value.toNat)).mapM Text.hexDigit? = some ds := by
    rw [hrender, hexBody_ofList style.marked hdigits, hdigits]
  have hfits : w.value.toNat < 2 ^ (Width.select w.value.toNat).bits := hw ▸ w.toNat_value_lt
  rw [ofHex_eq hbody hne, hvalue, ofHexDigits_digits, if_neg (Nat.not_le.2 w.value.isLt),
    if_neg (Nat.not_le.2 hfits), ofValue_value hw]

end Word

end Rv32
