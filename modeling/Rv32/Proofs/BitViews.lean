import Mathlib
import Rv32.Proofs.Fields
import Rv32.Proofs.WordText

/-!
# The bits of a word, seen in several ways

A word shows its bits by index from the most significant one down, as a list, as a text of binary
digits, by position from the least significant one up, and in fields.

* `Word.get?_eq_none_iff`, `Word.getElem?_bits`, `Word.getElem?_text` : the indices, the list and the
  text;
* `Word.field_split` : a field that is cut in two;
* `Word.field_eq_sum` : a field by the bits at its positions;
* `Word.views_coherent` : all of this together.
-/

namespace Rv32.Word

variable {hi lo m i : Nat}

/-! ## From the most significant bit -/

theorem get?_eq_none_iff (w : Word) : w.get? i = none ↔ w.length ≤ i := by
  unfold get?
  split
  · next h => simp [h]
  · next h => simpa using h

theorem get?_of_lt {w : Word} (h : i < w.length) :
    w.get? i = some (w.value.getLsbD (w.length - 1 - i)) := if_pos h

theorem getElem?_bits (w : Word) (i : Nat) : w.bits[i]? = w.get? i := by
  rw [bits_eq_map_range, List.getElem?_map, get?]
  split
  · next h => rw [List.getElem?_range h, Option.map_some]
  · next h => rw [List.getElem?_eq_none (by simpa using h), Option.map_none]

theorem getElem?_text (w : Word) (i : Nat) :
    w.text.toList[i]? = (w.get? i).map fun b => if b then '1' else '0' := by
  rw [text, String.toList_ofList, List.getElem?_map, getElem?_bits]

/-! ## From the least significant bit -/

theorem bit_eq (w : Word) (i : Nat) : w.bit i = w.value.toNat / 2 ^ i % 2 :=
  Nat.toNat_testBit w.value.toNat i

theorem bit_eq_one_iff {w : Word} : w.bit i = 1 ↔ w.value.getLsbD i = true := Bool.toNat_eq_one

theorem field_eq (w : Word) (hi lo : Nat) :
    w.field hi lo = w.value.toNat / 2 ^ lo % 2 ^ (hi - lo + 1) :=
  toNat_extractLsb w.value hi lo

theorem field_self (w : Word) (i : Nat) : w.field i i = w.bit i := by
  rw [field_eq, bit_eq, Nat.sub_self, Nat.zero_add, Nat.pow_one]

theorem field_split (w : Word) (hlo : lo ≤ m) (hm : m < hi) :
    w.field hi lo = w.field hi (m + 1) * 2 ^ (m + 1 - lo) + w.field m lo := by
  have hlength : hi - lo + 1 = m + 1 - lo + (hi - (m + 1) + 1) := by omega
  have hstart : lo + (m + 1 - lo) = m + 1 := by omega
  rw [field_eq, field_eq, field_eq, hlength, Nat.pow_add, Nat.mod_mul, Nat.div_div_eq_div_mul,
    ← Nat.pow_add, hstart, show m - lo + 1 = m + 1 - lo by omega, Nat.add_comm, Nat.mul_comm]

theorem field_eq_sum (w : Word) (h : lo ≤ hi) :
    w.field hi lo = ∑ j ∈ Finset.Icc lo hi, w.bit j * 2 ^ (j - lo) := by
  -- on the upper end: the field grows by its top bit
  induction hi, h using Nat.le_induction with
  | base => rw [Finset.Icc_self, Finset.sum_singleton, field_self, Nat.sub_self, Nat.pow_zero,
      Nat.mul_one]
  | succ hi h ih =>
    rw [Finset.sum_Icc_succ_top (by omega), ← ih, field_split w h hi.lt_succ_self, field_self,
      Nat.add_comm]

/-- The views of a word agree. There is a bit at each index below the length and at no other, and it
is the one at that place of the list and, as a digit, of the text, and at the position that counts
from the other end. A field is the number of the bits at its positions, and cutting a field in two
cuts the number. -/
theorem views_coherent (w : Word) :
    (∀ i, w.get? i = none ↔ w.length ≤ i) ∧
    (∀ i < w.length, ∃ b : Bool, w.get? i = some b ∧ w.bits[i]? = some b ∧
      w.text.toList[i]? = some (if b then '1' else '0') ∧ w.bit (w.length - 1 - i) = b.toNat) ∧
    w.bits.length = w.length ∧ w.text.toList.length = w.length ∧
    (∀ hi lo, lo ≤ hi → hi ≤ 31 →
      w.field hi lo = ∑ j ∈ Finset.Icc lo hi, w.bit j * 2 ^ (j - lo)) ∧
    ∀ hi m lo, lo ≤ m → m < hi → hi ≤ 31 →
      w.field hi lo = w.field hi (m + 1) * 2 ^ (m + 1 - lo) + w.field m lo := by
  refine ⟨fun i => w.get?_eq_none_iff, fun i hi => ?_, w.length_bits, w.length_text,
    fun hi lo h _ => w.field_eq_sum h, fun hi m lo hlo hm _ => w.field_split hlo hm⟩
  have hget := get?_of_lt hi
  refine ⟨_, hget, (w.getElem?_bits i).trans hget, ?_, rfl⟩
  rw [getElem?_text, hget, Option.map_some]

/-- Half a word, whose last bit but one has the index 14 and the position 1, and a full word, whose
bits are one field. -/
theorem views_of_two_words :
    (half 0x8003).get? 16 = none ∧
    (∃ b : Bool, (half 0x8003).get? 14 = some b ∧ (half 0x8003).bits[14]? = some b ∧
      (half 0x8003).text.toList[14]? = some (if b then '1' else '0') ∧
      (half 0x8003).bit 1 = b.toNat) ∧
    (half 0x8003).field 31 0 = (half 0x8003).field 31 16 * 2 ^ 16 + (half 0x8003).field 15 0 ∧
    (full 0x80050293).field 31 0 = ∑ j ∈ Finset.Icc 0 31, (full 0x80050293).bit j * 2 ^ j := by
  obtain ⟨hnone, hsome, -, -, -, hsplit⟩ := views_coherent (half 0x8003)
  obtain ⟨-, -, -, -, hsum, -⟩ := views_coherent (full 0x80050293)
  exact ⟨(hnone 16).2 (by decide), hsome 14 (by decide),
    hsplit 31 15 0 (by decide) (by decide) (by decide), hsum 31 0 (by decide) (by decide)⟩

end Rv32.Word
