import Mathlib
import Rv32.Immediate

/-!
# Sign extension

The low `n` bits of a word, read in two's complement.

* `eq_signExtend_iff` : the number is the only one in its range that is congruent to the word;
* `signExtend_eq_shift` : the number by shifting up, where the bits from `n` on are lost, and back
  down, where the sign is repeated;
* `signExtend_eq_iff` : two words have one number if they agree on the low bits;
* `setWidth_ofInt` : a number in 32 bits, cut to `n` bits, is the number in `n` bits;
* `signExtend_signExtend` : the number, written in 32 bits, is read back from any `m` low bits with
  `n ≤ m`;
* `signExtend_exact` : all of this together.
-/

namespace Rv32

variable {n m : Nat} {u v : BitVec 32} {k : Int}

/-! ## Range and remainder -/

theorem signExtend_modEq (v : BitVec 32) (n : Nat) : signExtend v n ≡ v.toNat [ZMOD 2 ^ n] := by
  have h := Int.bmod_emod (x := v.toNat) (m := 2 ^ n)
  rw [← BitVec.toInt_setWidth] at h
  exact_mod_cast h

/-- In the range of `n` bits no two numbers have one remainder. -/
theorem eq_of_modEq (hpos : 0 < n) {j k : Int} (hj : -2 ^ (n - 1) ≤ j ∧ j < 2 ^ (n - 1))
    (hk : -2 ^ (n - 1) ≤ k ∧ k < 2 ^ (n - 1)) (h : j ≡ k [ZMOD 2 ^ n]) : j = k := by
  have hwhole : (2 : Int) ^ n = 2 ^ (n - 1) + 2 ^ (n - 1) := by
    rw [← two_mul, ← pow_succ', Nat.sub_add_cancel hpos]
  -- the difference is a multiple of the modulus and smaller than it
  have hdiff : k - j = 0 := by
    apply Int.eq_zero_of_abs_lt_dvd (Int.modEq_iff_dvd.1 h)
    rw [abs_lt]
    omega
  omega

theorem eq_signExtend_iff (hpos : 0 < n) :
    k = signExtend v n ↔
      (-2 ^ (n - 1) ≤ k ∧ k < 2 ^ (n - 1)) ∧ k ≡ v.toNat [ZMOD 2 ^ n] := by
  have hrange : -2 ^ (n - 1) ≤ signExtend v n ∧ signExtend v n < 2 ^ (n - 1) :=
    ⟨BitVec.le_toInt _, BitVec.toInt_lt⟩
  constructor
  · rintro rfl
    exact ⟨hrange, signExtend_modEq v n⟩
  · rintro ⟨hk, hmod⟩
    exact eq_of_modEq hpos hk hrange (hmod.trans (signExtend_modEq v n).symm)

/-! ## Shifts -/

theorem signExtend_eq_shift (hpos : 0 < n) (hn : n ≤ 32) :
    signExtend v n = ((v <<< (32 - n)).sshiftRight (32 - n)).toInt := by
  have hbits : (v.setWidth n).signExtend 32 = (v <<< (32 - n)).sshiftRight (32 - n) := by
    apply BitVec.eq_of_getLsbD_eq
    intro i hi
    rw [BitVec.getLsbD_signExtend, BitVec.getLsbD_sshiftRight, BitVec.msb_setWidth,
      BitVec.msb_eq_getLsbD_last, BitVec.getLsbD_shiftLeft, BitVec.getLsbD_shiftLeft,
      BitVec.getLsbD_setWidth]
    by_cases hlow : i < n
    · simp [hi, hlow, show 32 - n + i < 32 by omega]
    · have hsign : 32 - 1 - (32 - n) = n - 1 := by omega
      simp [hi, hlow, hpos, hsign, show ¬ 32 - n + i < 32 by omega, show ¬ 32 ≤ i by omega,
        show ¬ 31 < 32 - n by omega]
  rw [signExtend, ← hbits, BitVec.toInt_signExtend_of_le hn]

/-! ## Bits that matter -/

theorem signExtend_eq_iff :
    signExtend u n = signExtend v n ↔ ∀ i < n, u.getLsbD i = v.getLsbD i := by
  rw [signExtend, signExtend, BitVec.toInt_inj, BitVec.eq_of_getLsbD_eq_iff]
  refine forall₂_congr fun i hi => ?_
  simp [hi]

theorem setWidth_ofInt (hn : n ≤ 32) (k : Int) :
    (BitVec.ofInt 32 k).setWidth n = BitVec.ofInt n k := by
  apply BitVec.eq_of_toNat_eq
  rw [BitVec.toNat_setWidth, BitVec.toNat_ofInt, BitVec.toNat_ofInt]
  have hdvd : (2 ^ n : Nat) ∣ 2 ^ 32 := Nat.pow_dvd_pow 2 hn
  zify
  rw [Int.toNat_of_nonneg (Int.emod_nonneg _ (by positivity)),
    Int.toNat_of_nonneg (Int.emod_nonneg _ (by positivity))]
  exact Int.emod_emod_of_dvd _ (by exact_mod_cast hdvd)

theorem signExtend_signExtend (hpos : 0 < n) (hnm : n ≤ m) (hm : m ≤ 32) :
    signExtend (BitVec.ofInt 32 (signExtend v n)) m = signExtend v n := by
  obtain ⟨⟨hlow, hhigh⟩, -⟩ := (eq_signExtend_iff hpos).1 (rfl : signExtend v n = _)
  have hhalf : (2 : Int) ^ (n - 1) ≤ 2 ^ (m - 1) := by
    exact_mod_cast Nat.pow_le_pow_right (by decide) (by omega : n - 1 ≤ m - 1)
  -- the number lies in the wider range too
  change ((BitVec.ofInt 32 (signExtend v n)).setWidth m).toInt = signExtend v n
  rw [setWidth_ofInt hm]
  exact BitVec.toInt_ofInt_eq_self (by omega) (by omega) (by omega)

/-- The low `n` bits of a word, for `n` from 1 to 32, are read as the one number from `-2 ^ (n - 1)`
to `2 ^ (n - 1) - 1` that is congruent to the word modulo `2 ^ n`; shifting the word up and back
down with its sign gives the same number. The other bits of the word do not matter and all of the
low ones do. Written in 32 bits, the number is read again from any `m` low bits with `n ≤ m`. -/
theorem signExtend_exact (v : BitVec 32) (n : Nat) (hpos : 0 < n) (hn : n ≤ 32) :
    (∀ k : Int, k = signExtend v n ↔
      -2 ^ (n - 1) ≤ k ∧ k ≤ 2 ^ (n - 1) - 1 ∧ k ≡ v.toNat [ZMOD 2 ^ n]) ∧
    signExtend v n = ((v <<< (32 - n)).sshiftRight (32 - n)).toInt ∧
    (∀ u : BitVec 32, signExtend u n = signExtend v n ↔ ∀ i < n, u.getLsbD i = v.getLsbD i) ∧
    ∀ m, n ≤ m → m ≤ 32 →
      signExtend (BitVec.ofInt 32 (signExtend v n)) m = signExtend v n := by
  refine ⟨fun k => ?_, signExtend_eq_shift hpos hn, fun u => signExtend_eq_iff,
    fun m hnm hm => signExtend_signExtend hpos hnm hm⟩
  rw [eq_signExtend_iff hpos, Int.le_sub_one_iff, and_assoc]

/-- The extreme widths: one bit, of which the number is the sign alone, and the whole word. -/
theorem signExtend_one_and_all_bits :
    signExtend 0x80000001#32 1 = -1 ∧ signExtend 0x80000000#32 32 = -2147483648 ∧
    signExtend 0xABCDE001#32 1 = signExtend 0x80000001#32 1 ∧
    signExtend (BitVec.ofInt 32 (signExtend 0x80000001#32 1)) 32 = -1 := by
  have hone := signExtend_exact 0x80000001#32 1 (by decide) (by decide)
  have hall := signExtend_exact 0x80000000#32 32 (by decide) (by decide)
  have hsign : signExtend 0x80000001#32 1 = -1 :=
    ((hone.1 (-1)).2 ⟨by decide, by decide, by decide⟩).symm
  refine ⟨hsign, ((hall.1 (-2147483648)).2 ⟨by decide, by decide, by decide⟩).symm,
    (hone.2.2.1 _).2 (by decide), ?_⟩
  rw [hone.2.2.2 32 (by decide) (by decide), hsign]

end Rv32
