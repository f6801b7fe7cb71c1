import Rv32.Proofs.Layout
import Rv32.Proofs.SignExtension

/-!
# Values of immediates

* `Immediate.IsExact` : the slices of an immediate hold each bit of its value from `align` up to
  `width` once and no other bit;
* `Immediate.eq_read_iff` : a word holds the admitted value `n` if every slice holds its bits of `n`;
* `Immediate.read_eq_read_iff` : two words hold one value if they have the same bits in every slice;
* `Immediate.admits_read` : the value that a word holds is admitted;
* `Immediate.read_eq_sum` : the value is the sum of the numbers in the slices by their weights, that
  of the sign being negative;
* `Immediate.write_read` : the value that a word holds, written back, is the word within the mask;
* `Immediate.read_write` : an admitted value is read from the word that it is written to.
-/

namespace Rv32.Immediate

def IsExact (m : Immediate) : Prop :=
  m.layout.IsProper ∧ 0 < m.width ∧ m.align ≤ m.width ∧ m.width ≤ 32 ∧
  (∀ s ∈ m.layout, m.align ≤ s.place ∧ s.place + s.length ≤ m.width) ∧
  ∀ i < m.width, m.align ≤ i → ∃ s ∈ m.layout, s.place ≤ i ∧ i < s.place + s.length

instance (m : Immediate) : Decidable m.IsExact := inferInstanceAs (Decidable (_ ∧ _))

variable {m : Immediate} {n : Int} {w : BitVec 32}

theorem admits_iff : m.Admits n ↔ (2 : Int) ^ m.align ∣ n ∧
    if m.signed then -2 ^ (m.width - 1) ≤ n ∧ n < 2 ^ (m.width - 1)
    else 0 ≤ n ∧ n < 2 ^ m.width := by
  simp only [Admits, Nat.one_shiftLeft, Nat.cast_pow, Nat.cast_ofNat]

/-! ## The bits of a value -/

/-- The value in two's complement, zero above the width. -/
def bits (m : Immediate) (n : Int) : BitVec 32 := (BitVec.ofInt m.width n).setWidth 32

theorem toNat_bits (hm : m.IsExact) (n : Int) : (m.bits n).toNat = (n % 2 ^ m.width).toNat := by
  obtain ⟨-, -, -, hwidth, -⟩ := hm
  have hlt := (BitVec.ofInt m.width n).isLt
  have hle : 2 ^ m.width ≤ 2 ^ 32 := Nat.pow_le_pow_right (by decide) hwidth
  rw [bits, BitVec.toNat_setWidth, Nat.mod_eq_of_lt (lt_of_lt_of_le hlt hle), BitVec.toNat_ofInt]
  norm_cast

theorem getLsbD_gather_eq_false (hm : m.IsExact) {i : Nat} (hi : i < m.align ∨ m.width ≤ i) :
    (m.layout.gather w).getLsbD i = false := by
  obtain ⟨-, -, -, -, hinside, -⟩ := hm
  refine Layout.getLsbD_gather_eq_false (fun s hs => ?_) w
  have := hinside s hs
  omega

theorem getLsbD_bits_eq_false (hn : m.Admits n) {i : Nat} (hi : i < m.align ∨ m.width ≤ i) :
    (m.bits n).getLsbD i = false := by
  rw [bits, BitVec.getLsbD_setWidth, Bool.and_eq_false_imp]
  intro _
  rcases hi with hi | hi
  · -- a multiple of `2 ^ align` is a number that is shifted by `align`
    obtain ⟨k, rfl⟩ := (admits_iff.1 hn).1
    have hpow : BitVec.ofInt m.width (2 ^ m.align) = BitVec.twoPow m.width m.align := by
      apply BitVec.eq_of_toNat_eq
      rw [BitVec.toNat_ofInt, BitVec.toNat_twoPow]
      norm_cast
    rw [mul_comm, BitVec.ofInt_mul, hpow, BitVec.mul_twoPow_eq_shiftLeft, BitVec.getLsbD_shiftLeft]
    simp [hi]
  · exact BitVec.getLsbD_of_ge _ _ hi

theorem gather_eq_bits_iff (hm : m.IsExact) (hn : m.Admits n) :
    m.layout.gather w = m.bits n ↔
      ∀ s ∈ m.layout, (m.bits n).extractLsb' s.place s.length = w.extractLsb' s.lo s.length := by
  obtain ⟨hproper, -, -, -, -, hcover⟩ := id hm
  constructor
  · intro h s hs
    apply BitVec.eq_of_getLsbD_eq
    intro j hj
    rw [BitVec.getLsbD_extractLsb', BitVec.getLsbD_extractLsb', ← h,
      Layout.getLsbD_gather_of_mem hproper hs hj]
  · intro h
    apply BitVec.eq_of_getLsbD_eq
    intro i _
    by_cases hi : i < m.align ∨ m.width ≤ i
    · rw [getLsbD_gather_eq_false hm hi, getLsbD_bits_eq_false hn hi]
    · obtain ⟨s, hs, hle, hlt⟩ := hcover i (by omega) (by omega)
      have hj : i - s.place < s.length := by omega
      have hbit := congrArg (fun v : BitVec s.length => v.getLsbD (i - s.place)) (h s hs)
      simp only [BitVec.getLsbD_extractLsb', hj, decide_true, Bool.true_and] at hbit
      rw [← Layout.getLsbD_gather_of_mem hproper hs hj] at hbit
      rw [show s.place + (i - s.place) = i by omega] at hbit
      exact hbit.symm

/-! ## Reading -/

theorem setWidth_gather (hm : m.IsExact) (w : BitVec 32) :
    ((m.layout.gather w).setWidth m.width).setWidth 32 = m.layout.gather w := by
  apply BitVec.eq_of_getLsbD_eq
  intro i hi
  rw [BitVec.getLsbD_setWidth, BitVec.getLsbD_setWidth]
  by_cases hw : i < m.width
  · simp [hi, hw]
  · rw [getLsbD_gather_eq_false hm (Or.inr (by omega))]
    simp

theorem read_eq_iff_gather (hm : m.IsExact) (hn : m.Admits n) :
    m.read w = n ↔ m.layout.gather w = m.bits n := by
  obtain ⟨-, hrange⟩ := admits_iff.1 hn
  obtain ⟨-, hpos, -⟩ := id hm
  unfold read
  cases hs : m.signed with
  | false =>
    simp only [hs, Bool.false_eq_true, if_false] at hrange ⊢
    rw [← BitVec.toNat_inj, toNat_bits hm, Int.emod_eq_of_lt hrange.1 hrange.2]
    omega
  | true =>
    simp only [hs, if_true] at hrange ⊢
    rw [signExtend]
    constructor
    · intro h
      rw [← setWidth_gather hm w, bits, ← h, BitVec.ofInt_toInt]
    · intro h
      have hwidth : (m.layout.gather w).setWidth m.width = BitVec.ofInt m.width n := by
        apply BitVec.eq_of_getLsbD_eq
        intro i hi
        have : m.width ≤ 32 := hm.2.2.2.1
        rw [h, bits]
        simp [hi, show i < 32 by omega]
      rw [hwidth, BitVec.toInt_ofInt_eq_self hpos hrange.1 hrange.2]

/-- A word holds `n` if each slice of the word holds the bits of `n` that stand there. -/
theorem eq_read_iff (hm : m.IsExact) (hn : m.Admits n) :
    n = m.read w ↔ ∀ s ∈ m.layout,
      (BitVec.ofInt m.width n).extractLsb' s.place s.length = w.extractLsb' s.lo s.length := by
  obtain ⟨-, -, -, hwidth, hinside, -⟩ := id hm
  rw [eq_comm, read_eq_iff_gather hm hn, gather_eq_bits_iff hm hn]
  refine forall₂_congr fun s hs => ?_
  have hin := hinside s hs
  rw [bits, BitVec.extractLsb'_setWidth_of_le (by omega)]

theorem admits_zero (m : Immediate) : m.Admits 0 := by
  rw [admits_iff]
  refine ⟨dvd_zero _, ?_⟩
  split
  · have : (0 : Int) < 2 ^ (m.width - 1) := by positivity
    omega
  · have : (0 : Int) < 2 ^ m.width := by positivity
    omega

theorem read_eq_zero_iff (hm : m.IsExact) :
    m.read w = 0 ↔ ∀ s ∈ m.layout, w.toNat / 2 ^ s.lo % 2 ^ s.length = 0 := by
  rw [eq_comm, eq_read_iff hm m.admits_zero]
  refine forall₂_congr fun s _ => ?_
  rw [← BitVec.toNat_inj, toNat_extractLsb', toNat_extractLsb', eq_comm]
  simp

theorem dvd_toNat_gather (hm : m.IsExact) (w : BitVec 32) :
    2 ^ m.align ∣ (m.layout.gather w).toNat := by
  apply Nat.dvd_of_mod_eq_zero
  apply Nat.eq_of_testBit_eq
  intro i
  rw [Nat.testBit_mod_two_pow, Nat.zero_testBit, Bool.and_eq_false_imp, decide_eq_true_eq]
  intro hi
  exact getLsbD_gather_eq_false hm (Or.inl hi)

theorem admits_read (hm : m.IsExact) (w : BitVec 32) : m.Admits (m.read w) := by
  obtain ⟨-, hpos, halign, -, hinside, -⟩ := id hm
  have hdvd : (2 : Int) ^ m.align ∣ (m.layout.gather w).toNat := by
    exact_mod_cast dvd_toNat_gather hm w
  have hlt := Layout.toNat_gather_lt (fun s hs => (hinside s hs).2) w
  rw [admits_iff, read]
  cases m.signed with
  | false =>
    simp only [Bool.false_eq_true, if_false]
    exact ⟨hdvd, by omega, by exact_mod_cast hlt⟩
  | true =>
    simp only [if_true]
    refine ⟨?_, BitVec.le_toInt _, BitVec.toInt_lt⟩
    have hwhole : (2 : Int) ^ m.align ∣ (2 ^ m.width : Nat) := by
      exact_mod_cast Nat.pow_dvd_pow 2 halign
    rw [signExtend, BitVec.toInt_eq_toNat_cond, BitVec.toNat_setWidth, Nat.mod_eq_of_lt hlt]
    split
    · exact hdvd
    · exact dvd_sub hdvd hwhole

theorem read_eq_read_iff (hm : m.IsExact) (v w : BitVec 32) : m.read v = m.read w ↔
    ∀ s ∈ m.layout, v.extractLsb' s.lo s.length = w.extractLsb' s.lo s.length := by
  have hn := admits_read hm v
  have hv := (eq_read_iff hm hn).1 rfl
  rw [eq_read_iff hm hn]
  refine forall₂_congr fun s hs => ?_
  rw [hv s hs]

/-! ## Weights -/

/-- What the lowest bit of a slice counts for. The bit of the sign counts against the others. -/
def weight (m : Immediate) (s : Slice) : Int :=
  if m.signed ∧ s.place + 1 = m.width then -2 ^ s.place else 2 ^ s.place

/-- No slice is empty or listed twice, and the sign has a slice of its own. -/
def IsWeighted (m : Immediate) : Prop :=
  m.layout.Nodup ∧ (∀ s ∈ m.layout, 0 < s.length) ∧
  (m.signed → ∃ s ∈ m.layout, s.place + 1 = m.width)

instance (m : Immediate) : Decidable m.IsWeighted := inferInstanceAs (Decidable (_ ∧ _))

/-- Two's complement: the number without a sign, less the whole range if the sign is set. -/
theorem read_eq_gather (hm : m.IsExact) (w : BitVec 32) :
    m.read w = ((m.layout.gather w).toNat : Int) - if m.signed then
      2 ^ m.width * (((m.layout.gather w).getLsbD (m.width - 1)).toNat : Int) else 0 := by
  obtain ⟨-, hpos, -, -, hinside, -⟩ := id hm
  have hlt := Layout.toNat_gather_lt (fun s hs => (hinside s hs).2) w
  rw [read]
  cases m.signed with
  | false => simp
  | true =>
    simp only [if_true]
    rw [signExtend, BitVec.toInt_eq_msb_cond, BitVec.msb_setWidth, BitVec.toNat_setWidth,
      Nat.mod_eq_of_lt hlt, decide_eq_true hpos, Bool.true_and]
    cases (m.layout.gather w).getLsbD (m.width - 1) <;> simp

/-- Without a sign, the bit of the sign counts for the whole range more than with it. -/
theorem sum_place_eq (hm : m.IsExact) (hw : m.IsWeighted) {sign : Slice} (hs : m.signed)
    (hsign : sign ∈ m.layout) (htop : sign.place + 1 = m.width) (f : Slice → Nat) :
    (((m.layout.map fun s => f s * 2 ^ s.place).sum : Nat) : Int) =
      (m.layout.map fun s => m.weight s * f s).sum + 2 ^ m.width * (f sign : Int) := by
  obtain ⟨hproper, -⟩ := hm
  obtain ⟨hnodup, hpos, -⟩ := hw
  have hterm (s : Slice) : ((f s * 2 ^ s.place : Nat) : Int) =
      m.weight s * f s + if s.place + 1 = m.width then 2 ^ m.width * (f s : Int) else 0 := by
    rw [weight]
    by_cases h : s.place + 1 = m.width
    · rw [if_pos ⟨hs, h⟩, if_pos h, ← h]
      push_cast
      ring
    · rw [if_neg fun h' => h h'.2, if_neg h]
      push_cast
      ring
  have hother : ∀ s, s ≠ sign → s ∈ m.layout →
      (if s.place + 1 = m.width then 2 ^ m.width * (f s : Int) else 0) = 0 := by
    intro s hne hmem
    refine if_neg fun h => ?_
    have := hpos s hmem
    have := hpos sign hsign
    rcases hproper.2 s hmem sign hsign with h' | h' | h'
    · exact hne h'
    · omega
    · omega
  rw [Nat.cast_list_sum, List.map_map]
  simp only [Function.comp_def, hterm]
  rw [List.sum_map_add, List.sum_map_eq_nsmul_single sign _ hother,
    List.count_eq_one_of_mem hnodup hsign, one_smul, if_pos htop]

/-- The value is the sum of the numbers in the slices by their weights. -/
theorem read_eq_sum (hm : m.IsExact) (hw : m.IsWeighted) (w : BitVec 32) :
    m.read w =
      (m.layout.map fun s => m.weight s * (w.toNat / 2 ^ s.lo % 2 ^ s.length : Nat)).sum := by
  obtain ⟨hnodup, hpos, hsigned⟩ := id hw
  rw [read_eq_gather hm, Layout.toNat_gather hm.1 hnodup]
  cases hs : m.signed with
  | false =>
    rw [if_neg Bool.false_ne_true, sub_zero, Nat.cast_list_sum, List.map_map]
    refine congrArg List.sum (List.map_congr_left fun s _ => ?_)
    simp [weight, hs, mul_comm]
  | true =>
    obtain ⟨sign, hsign, htop⟩ := hsigned hs
    have hone : sign.length = 1 := by
      have hpos := hpos sign hsign
      have hin := hm.2.2.2.2.1 sign hsign
      omega
    have hbit : ((m.layout.gather w).getLsbD (m.width - 1)).toNat =
        w.toNat / 2 ^ sign.lo % 2 ^ sign.length := by
      have hmem := Layout.getLsbD_gather_of_mem hm.1 hsign (hpos sign hsign) w
      rw [Nat.add_zero, Nat.add_zero, show sign.place = m.width - 1 by omega] at hmem
      rw [hmem, hone, Nat.pow_one]
      exact Nat.toNat_testBit w.toNat sign.lo
    rw [if_pos rfl, hbit, sum_place_eq hm hw hs hsign htop fun s =>
      w.toNat / 2 ^ s.lo % 2 ^ s.length]
    exact add_sub_cancel_right _ _

/-! ## Writing -/

theorem write_read (hm : m.IsExact) (w : BitVec 32) : m.write (m.read w) = w &&& m.layout.mask := by
  obtain ⟨hproper, -, -, hwidth, hinside, -⟩ := id hm
  have hgather : m.layout.gather w = m.bits (m.read w) :=
    (read_eq_iff_gather hm (admits_read hm w)).1 rfl
  rw [write, ← Layout.scatter_gather hproper w]
  apply Layout.scatter_congr
  intro s hs j hj
  have hin := hinside s hs
  rw [hgather, bits, ← setWidth_ofInt hwidth]
  simp [show s.place + j < 32 by omega, show s.place + j < m.width by omega]

theorem read_write (hm : m.IsExact) (hsep : m.layout.IsSeparate) (hn : m.Admits n) :
    m.read (m.write n) = n := by
  obtain ⟨-, -, -, hwidth, hinside, -⟩ := id hm
  rw [eq_comm, eq_read_iff hm hn]
  intro s hs
  apply BitVec.eq_of_getLsbD_eq
  intro j hj
  have hin := hinside s hs
  rw [BitVec.getLsbD_extractLsb', BitVec.getLsbD_extractLsb', write,
    Layout.getLsbD_scatter_of_mem hsep hs hj, ← setWidth_ofInt hwidth, BitVec.getLsbD_setWidth]
  simp [show s.place + j < m.width by omega]

end Rv32.Immediate
