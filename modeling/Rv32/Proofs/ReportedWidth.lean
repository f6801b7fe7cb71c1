import Mathlib
import Rv32.Proofs.HexText

/-!
# The width that is reported for a number

A hexadecimal number that no word holds is reported by a width. Of up to eight digits this is the
length of the number in bits; of more digits it is four bits for each of them, which is that length
rounded up to whole digits.

* `Text.bitLength_eq_size` : the length of a number in bits is `Nat.size`;
* `Text.length_digits_eq` : the number of its hexadecimal digits by that length;
* `Word.reportedWidth` : the width that is reported; `Word.reportedWidth_eq_size_iff` : when it is
  the length in bits;
* `Word.ofHex_reported_width` : what is said of any text of such a number.
-/

namespace Rv32

namespace Text

theorem bitLength_eq_size (v : Nat) : bitLength v = v.size := by
  apply eq_of_forall_ge_iff
  intro k
  rw [bitLength_le_iff, Nat.size_le]

/-- Each hexadecimal digit holds four bits, the first one perhaps fewer. -/
theorem length_digits_eq (v : Nat) : (Nat.digits 16 v).length = (v.size + 3) / 4 := by
  apply eq_of_forall_ge_iff
  intro k
  have hbits : v < 16 ^ k ↔ v.size ≤ 4 * k := by
    rw [Nat.size_le, pow_mul]
    rfl
  rw [Nat.digits_length_le_iff (by decide), hbits]
  omega

end Text

namespace Word

variable {v : Nat}

/-- The width that is reported for a number that no word holds. -/
def reportedWidth (v : Nat) : Nat := if v < 2 ^ 32 then v.size else 4 * ((v.size + 3) / 4)

theorem reportedWidth_eq_size_iff : reportedWidth v = v.size ↔ v < 2 ^ 32 ∨ 4 ∣ v.size := by
  unfold reportedWidth
  split_ifs with h
  · exact iff_of_true rfl (.inl h)
  · rw [or_iff_right h]
    omega

theorem size_le_reportedWidth (v : Nat) : v.size ≤ reportedWidth v := by
  unfold reportedWidth
  split_ifs <;> omega

theorem reportedWidth_lt (v : Nat) : reportedWidth v < v.size + 4 := by
  unfold reportedWidth
  split_ifs <;> omega

theorem ofHexDigits_tooWide (h : ¬ IsWordValue v) :
    ofHexDigits (Nat.digits 16 v).reverse = .error (.invalidWidth (reportedWidth v)) := by
  rw [isWordValue_iff] at h
  rw [ofHexDigits_digits, Text.length_digits_eq, Text.bitLength_eq_size]
  unfold reportedWidth
  by_cases hlong : v < 2 ^ 32
  · have hwide : 2 ^ (Width.select v).bits ≤ v := by
      apply Nat.le_of_not_lt
      exact fun hfits => h ⟨hlong, hfits⟩
    rw [if_neg (Nat.not_le.2 hlong), if_pos hwide, if_pos hlong]
  · rw [if_pos (Nat.le_of_not_lt hlong), if_neg hlong]

/-- A text of a number that does not fit into the width that it selects is refused with a width. It is
the length of the number in bits up to 32 bits, and beyond that the least multiple of four that is
not below this length; so it is the length itself if and only if the number has at most 32 bits or
its first digit has all four of its bits. -/
theorem ofHex_reported_width (t : String) (v : Nat) (hnumeral : Text.IsHexNumeral (hexBody t))
    (hvalue : Text.hexValue (hexBody t) = v)
    (hwide : v % 4 ≠ 3 ∧ 2 ^ 16 ≤ v ∨ 2 ^ 32 ≤ v) :
    ∃ n, ofHex t = .error (.invalidWidth n) ∧
      (v < 2 ^ 32 → n = v.size) ∧
      (2 ^ 32 ≤ v → n = 4 * ((v.size + 3) / 4)) ∧
      (n = v.size ↔ v < 2 ^ 32 ∨ 4 ∣ v.size) ∧
      v.size ≤ n ∧ n < v.size + 4 := by
  have hword : ¬ IsWordValue v := by
    unfold IsWordValue
    omega
  refine ⟨reportedWidth v, ?_, fun h => if_pos h, fun h => if_neg (Nat.not_lt.2 h),
    reportedWidth_eq_size_iff, size_le_reportedWidth v, reportedWidth_lt v⟩
  rw [ofHex_of_isHexNumeral hnumeral, hvalue, ofHexDigits_tooWide hword]

/-- A number of 17 bits that selects half a word, one of 36 bits in nine digits, and one of 33 bits in
as many. -/
theorem ofHex_reported_widths :
    ofHex "0x1_0000" = .error (.invalidWidth 17) ∧
    ofHex "0x823456789" = .error (.invalidWidth 36) ∧
    ofHex "0x123456789" = .error (.invalidWidth 36) := by
  have hsize : Nat.size 0x10000 = 17 ∧ Nat.size 0x823456789 = 36 ∧ Nat.size 0x123456789 = 33 := by
    decide
  refine ⟨?_, ?_, ?_⟩
  · obtain ⟨n, hn, hshort, -⟩ :=
      ofHex_reported_width "0x1_0000" 0x10000 (by decide) (by decide) (by decide)
    rw [hn, hshort (by decide), hsize.1]
  · obtain ⟨n, hn, -, -, hexact, -⟩ :=
      ofHex_reported_width "0x823456789" 0x823456789 (by decide) (by decide) (by decide)
    rw [hn, hexact.2 (by rw [hsize.2.1]; decide), hsize.2.1]
  · obtain ⟨n, hn, -, hlong, -⟩ :=
      ofHex_reported_width "0x123456789" 0x123456789 (by decide) (by decide) (by decide)
    rw [hn, hlong (by decide), hsize.2.2]

/-- The number of 33 bits is reported as one of 36. -/
theorem ofHex_width_of_nine_digits :
    ¬ ∀ (t : String) (v : Nat), Text.IsHexNumeral (hexBody t) → Text.hexValue (hexBody t) = v →
      v % 4 ≠ 3 ∧ 2 ^ 16 ≤ v ∨ 2 ^ 32 ≤ v → ofHex t = .error (.invalidWidth v.size) := by
  intro h
  have hexact := h "0x123456789" 0x123456789 (by decide) (by decide) (by decide)
  have hsize : Nat.size 0x123456789 = 33 := by decide
  rw [hsize] at hexact
  exact absurd hexact (by decide)

end Word

end Rv32
