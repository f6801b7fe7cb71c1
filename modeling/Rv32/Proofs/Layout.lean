import Mathlib
import Rv32.Encoding

/-!
# Bits of operands and patterns

* `Layout.IsProper` : every bit of the operand has one place in the word;
* `Layout.getLsbD_gather_of_mem` : the bits of the operand that a slice holds;
* `Layout.toNat_gather` : the operand as the sum of the numbers in the slices;
* `Layout.scatter_gather` : the operand of a word, written back, is the word within the mask;
* `Layout.IsSeparate`, `Layout.getLsbD_scatter_of_mem` : the same for the word, if no two slices take
  one of its bits, by reading the layout the other way round (`Layout.swap`);
* `Pattern.matches_ofFields_iff` : a word has the bits of a pattern of fields if each field holds
  its number.

Fields are numbers in the proofs that follow: the bits from `lo` up to `lo + n` of a word `w` are
`w.toNat / 2 ^ lo % 2 ^ n`, so that facts on several fields of one word are facts for `omega`.
-/

namespace Rv32

theorem getLsbD_foldr_or {α : Type} {n : Nat} (f : α → BitVec n) (l : List α) (i : Nat) :
    (l.foldr (fun a v => f a ||| v) 0#n).getLsbD i = l.any fun a => (f a).getLsbD i := by
  induction l with
  | nil => simp
  | cons a l ih => simp [ih]

theorem toNat_extractLsb' {k : Nat} (w : BitVec k) (lo n : Nat) :
    (w.extractLsb' lo n).toNat = w.toNat / 2 ^ lo % 2 ^ n := by
  rw [BitVec.extractLsb'_toNat, Nat.shiftRight_eq_div_pow]

/-! ## Slices -/

namespace Slice

/-- Bits that are cut out of a word and moved to another place. -/
theorem getLsbD_extract_shift (v : BitVec 32) (source n target i : Nat) :
    ((v.extractLsb' source n).setWidth 32 <<< target).getLsbD i =
      (decide (i < 32 ∧ target ≤ i ∧ i < target + n) && v.getLsbD (source + (i - target))) := by
  rw [BitVec.getLsbD_shiftLeft, BitVec.getLsbD_setWidth, BitVec.getLsbD_extractLsb']
  by_cases h : i < 32 ∧ target ≤ i ∧ i < target + n
  · simp [h, show ¬ i < target by omega, show i - target < 32 by omega,
      show i - target < n by omega]
  · by_cases h32 : i < 32
    · by_cases ht : i < target
      · simp [h, ht]
      · simp [h, show ¬ i - target < n by omega]
    · simp [h32]

theorem getLsbD_gather (s : Slice) (w : BitVec 32) (i : Nat) :
    (s.gather w).getLsbD i =
      (decide (i < 32 ∧ s.place ≤ i ∧ i < s.place + s.length) && w.getLsbD (s.lo + (i - s.place))) :=
  getLsbD_extract_shift w s.lo s.length s.place i

theorem getLsbD_scatter (s : Slice) (v : BitVec 32) (i : Nat) :
    (s.scatter v).getLsbD i =
      (decide (i < 32 ∧ s.lo ≤ i ∧ i < s.lo + s.length) && v.getLsbD (s.place + (i - s.lo))) :=
  getLsbD_extract_shift v s.place s.length s.lo i

theorem getLsbD_mask (s : Slice) (i : Nat) :
    s.mask.getLsbD i = decide (i < 32 ∧ s.lo ≤ i ∧ i < s.lo + s.length) := by
  rw [mask, BitVec.getLsbD_shiftLeft, BitVec.getLsbD_setWidth, BitVec.getLsbD_allOnes]
  by_cases h : i < 32 ∧ s.lo ≤ i ∧ i < s.lo + s.length
  · simp [h, show ¬ i < s.lo by omega, show i - s.lo < 32 by omega,
      show i - s.lo < s.length by omega]
  · by_cases h32 : i < 32
    · by_cases hl : i < s.lo
      · simp [h, hl]
      · simp [h, show ¬ i - s.lo < s.length by omega]
    · simp [h32]

theorem toNat_gather {s : Slice} (h : s.place + s.length ≤ 32) (w : BitVec 32) :
    (s.gather w).toNat = w.toNat / 2 ^ s.lo % 2 ^ s.length * 2 ^ s.place := by
  have hfield : w.toNat / 2 ^ s.lo % 2 ^ s.length < 2 ^ s.length :=
    Nat.mod_lt _ (Nat.two_pow_pos _)
  have hlength : 2 ^ s.length ≤ 2 ^ 32 := Nat.pow_le_pow_right (by decide) (by omega)
  have hshift : w.toNat / 2 ^ s.lo % 2 ^ s.length * 2 ^ s.place < 2 ^ 32 :=
    calc _ < 2 ^ s.length * 2 ^ s.place := Nat.mul_lt_mul_of_pos_right hfield (Nat.two_pow_pos _)
      _ = 2 ^ (s.length + s.place) := (Nat.pow_add 2 s.length s.place).symm
      _ ≤ 2 ^ 32 := Nat.pow_le_pow_right (by decide) (by omega)
  rw [gather, BitVec.toNat_shiftLeft, BitVec.toNat_setWidth, toNat_extractLsb',
    Nat.mod_eq_of_lt (lt_of_lt_of_le hfield hlength), Nat.shiftLeft_eq, Nat.mod_eq_of_lt hshift]

end Slice

/-! ## Layouts -/

namespace Layout

/-- The operand has at most 32 bits, and no two slices hold the same one. -/
def IsProper (l : Layout) : Prop :=
  (∀ s ∈ l, s.place + s.length ≤ 32) ∧
  ∀ s ∈ l, ∀ t ∈ l, s = t ∨ s.place + s.length ≤ t.place ∨ t.place + t.length ≤ s.place

instance (l : Layout) : Decidable l.IsProper := inferInstanceAs (Decidable (_ ∧ _))

theorem getLsbD_gather (l : Layout) (w : BitVec 32) (i : Nat) :
    (l.gather w).getLsbD i = l.any fun s => (s.gather w).getLsbD i :=
  getLsbD_foldr_or (fun s : Slice => s.gather w) l i

theorem getLsbD_gather_of_mem {l : Layout} (hl : l.IsProper) {s : Slice} (hs : s ∈ l) {j : Nat}
    (hj : j < s.length) (w : BitVec 32) :
    (l.gather w).getLsbD (s.place + j) = w.getLsbD (s.lo + j) := by
  have hfit := hl.1 s hs
  have hself : (s.gather w).getLsbD (s.place + j) = w.getLsbD (s.lo + j) := by
    rw [Slice.getLsbD_gather, Nat.add_sub_cancel_left]
    simp [hj, show s.place + j < 32 by omega]
  rw [getLsbD_gather, Bool.eq_iff_iff, List.any_eq_true]
  constructor
  · rintro ⟨t, ht, hbit⟩
    have hin : s.place + j < 32 ∧ t.place ≤ s.place + j ∧ s.place + j < t.place + t.length := by
      rw [Slice.getLsbD_gather, Bool.and_eq_true, decide_eq_true_eq] at hbit
      exact hbit.1
    -- a slice that holds the same bit of the operand is the slice itself
    have hst : s = t := by
      rcases hl.2 s hs t ht with h | h | h
      · exact h
      · omega
      · omega
    rw [← hself, hst]
    rw [hst] at hbit
    exact hbit
  · intro h
    exact ⟨s, hs, hself.trans h⟩

theorem getLsbD_gather_eq_false {l : Layout} {i : Nat}
    (h : ∀ s ∈ l, i < s.place ∨ s.place + s.length ≤ i) (w : BitVec 32) :
    (l.gather w).getLsbD i = false := by
  rw [getLsbD_gather, List.any_eq_false]
  intro s hs hbit
  rw [Slice.getLsbD_gather, Bool.and_eq_true, decide_eq_true_eq] at hbit
  have := h s hs
  omega

theorem toNat_gather_lt {l : Layout} {n : Nat} (h : ∀ s ∈ l, s.place + s.length ≤ n)
    (w : BitVec 32) : (l.gather w).toNat < 2 ^ n := by
  apply Nat.lt_pow_two_of_testBit
  intro i hi
  exact getLsbD_gather_eq_false (fun s hs => Or.inr ((h s hs).trans hi)) w

/-- The operand is the sum of the numbers in its slices, each shifted to its place. -/
theorem toNat_gather {l : Layout} (hl : l.IsProper) (hnodup : l.Nodup) (w : BitVec 32) :
    (l.gather w).toNat =
      (l.map fun s => w.toNat / 2 ^ s.lo % 2 ^ s.length * 2 ^ s.place).sum := by
  induction l with
  | nil => rfl
  | cons s l ih =>
    obtain ⟨hs, hnodup⟩ := List.nodup_cons.1 hnodup
    have htail : IsProper l :=
      ⟨fun t ht => hl.1 t (List.mem_cons_of_mem s ht),
        fun t ht u hu => hl.2 t (List.mem_cons_of_mem s ht) u (List.mem_cons_of_mem s hu)⟩
    -- a bit that the first slice holds is held by no other
    have hzero : s.gather w &&& gather l w = 0#32 := by
      apply BitVec.eq_of_getLsbD_eq
      intro i _
      rw [BitVec.getLsbD_and, BitVec.getLsbD_zero, Bool.and_eq_false_imp, Slice.getLsbD_gather,
        Bool.and_eq_true, decide_eq_true_eq]
      rintro ⟨hi, -⟩
      refine getLsbD_gather_eq_false (fun t ht => ?_) w
      rcases hl.2 s List.mem_cons_self t (List.mem_cons_of_mem s ht) with rfl | h | h
      · exact absurd ht hs
      · omega
      · omega
    change (s.gather w ||| gather l w).toNat = _
    rw [← BitVec.add_eq_or_of_and_eq_zero _ _ hzero, BitVec.toNat_add_of_and_eq_zero hzero,
      Slice.toNat_gather (hl.1 s List.mem_cons_self), ih htail hnodup, List.map_cons,
      List.sum_cons]

theorem getLsbD_scatter (l : Layout) (v : BitVec 32) (i : Nat) :
    (l.scatter v).getLsbD i = l.any fun s => (s.scatter v).getLsbD i :=
  getLsbD_foldr_or (fun s : Slice => s.scatter v) l i

theorem getLsbD_mask (l : Layout) (i : Nat) :
    l.mask.getLsbD i = l.any fun s => s.mask.getLsbD i :=
  getLsbD_foldr_or (fun s : Slice => s.mask) l i

/-- Writing looks at no bit of the operand but those that the slices hold. -/
theorem scatter_congr {l : Layout} {v v' : BitVec 32}
    (h : ∀ s ∈ l, ∀ j < s.length, v.getLsbD (s.place + j) = v'.getLsbD (s.place + j)) :
    l.scatter v = l.scatter v' := by
  apply BitVec.eq_of_getLsbD_eq
  intro i _
  have hslice : ∀ s ∈ l, (s.scatter v).getLsbD i = (s.scatter v').getLsbD i := by
    intro s hs
    rw [Slice.getLsbD_scatter, Slice.getLsbD_scatter]
    by_cases hi : i < 32 ∧ s.lo ≤ i ∧ i < s.lo + s.length
    · rw [h s hs (i - s.lo) (by omega)]
    · simp [hi]
  rw [getLsbD_scatter, getLsbD_scatter, Bool.eq_iff_iff, List.any_eq_true, List.any_eq_true]
  constructor
  · rintro ⟨s, hs, hbit⟩
    exact ⟨s, hs, (hslice s hs).symm.trans hbit⟩
  · rintro ⟨s, hs, hbit⟩
    exact ⟨s, hs, (hslice s hs).trans hbit⟩

/-- Reading an operand and writing it back keeps the bits that it has in the word. -/
theorem scatter_gather {l : Layout} (hl : l.IsProper) (w : BitVec 32) :
    l.scatter (l.gather w) = w &&& l.mask := by
  apply BitVec.eq_of_getLsbD_eq
  intro i _
  have hslice : ∀ s ∈ l,
      (s.scatter (l.gather w)).getLsbD i = (w.getLsbD i && s.mask.getLsbD i) := by
    intro s hs
    rw [Slice.getLsbD_scatter, Slice.getLsbD_mask, Bool.and_comm (w.getLsbD i)]
    by_cases h : i < 32 ∧ s.lo ≤ i ∧ i < s.lo + s.length
    · have hbit := getLsbD_gather_of_mem hl hs (show i - s.lo < s.length by omega) w
      rw [hbit, show s.lo + (i - s.lo) = i by omega]
    · simp [h]
  rw [getLsbD_scatter, BitVec.getLsbD_and, getLsbD_mask, Bool.eq_iff_iff]
  simp only [List.any_eq_true, Bool.and_eq_true]
  constructor
  · rintro ⟨s, hs, hbit⟩
    rw [hslice s hs, Bool.and_eq_true] at hbit
    exact ⟨hbit.1, s, hs, hbit.2⟩
  · rintro ⟨hw, s, hs, hbit⟩
    exact ⟨s, hs, by rw [hslice s hs, hw, hbit]; rfl⟩

end Layout

/-! ## Layouts the other way round -/

/-- The slice that takes the bits of the operand for those of the word. -/
def Slice.swap (s : Slice) : Slice := ⟨s.place + s.length - 1, s.place, s.lo⟩

theorem Slice.length_swap {s : Slice} (h : 0 < s.length) : s.swap.length = s.length := by
  change s.place + s.length - 1 + 1 - s.place = s.length
  omega

namespace Layout

/-- The layout that reads what this one writes. -/
def swap (l : Layout) : Layout := l.map Slice.swap

/-- No slice is empty, and no two take the same bit of the word. -/
def IsSeparate (l : Layout) : Prop := (∀ s ∈ l, 0 < s.length) ∧ l.swap.IsProper

instance (l : Layout) : Decidable l.IsSeparate := inferInstanceAs (Decidable (_ ∧ _))

variable {l : Layout}

theorem scatter_eq_gather_swap (h : ∀ s ∈ l, 0 < s.length) (v : BitVec 32) :
    l.scatter v = l.swap.gather v := by
  induction l with
  | nil => rfl
  | cons s l ih =>
    rw [List.forall_mem_cons] at h
    have hslice : s.swap.gather v = s.scatter v := by
      rw [Slice.gather, Slice.length_swap h.1]
      rfl
    change s.scatter v ||| scatter l v = s.swap.gather v ||| gather (swap l) v
    rw [hslice, ih h.2]

theorem getLsbD_scatter_of_mem (hl : l.IsSeparate) {s : Slice} (hs : s ∈ l) {j : Nat}
    (hj : j < s.length) (v : BitVec 32) :
    (l.scatter v).getLsbD (s.lo + j) = v.getLsbD (s.place + j) := by
  obtain ⟨hpos, hproper⟩ := hl
  rw [scatter_eq_gather_swap hpos]
  rw [← Slice.length_swap (hpos s hs)] at hj
  exact getLsbD_gather_of_mem hproper (List.mem_map_of_mem hs) hj v

end Layout

/-! ## Patterns -/

/-- A field of a word holds the number of `x`. -/
theorem field_eq_toNat_iff {k n lo : Nat} (x : BitVec n) (w : BitVec k) :
    w.toNat / 2 ^ lo % 2 ^ n = x.toNat ↔ x = w.extractLsb' lo n := by
  rw [← BitVec.toNat_inj, toNat_extractLsb', eq_comm]

namespace Pattern

/-- The fields lie in a word, hold the numbers that are asked of them, and do not overlap. -/
def AreFields (fs : List (Nat × Nat × Nat)) : Prop :=
  (∀ f ∈ fs, f.2.1 ≤ f.1 ∧ f.1 < 32 ∧ f.2.2 < 1 <<< (f.1 + 1 - f.2.1)) ∧
  fs.Pairwise fun f g => f.1 < g.2.1 ∨ g.1 < f.2.1

instance (fs : List (Nat × Nat × Nat)) : Decidable (AreFields fs) :=
  inferInstanceAs (Decidable (_ ∧ _))

/-- Two patterns with bits in different places, put together. -/
theorem and_or_eq_or_iff {w m m' v v' : BitVec 32} (hv : v &&& m = v) (hv' : v' &&& m' = v')
    (hm : m &&& m' = 0#32) :
    w &&& (m ||| m') = v ||| v' ↔ w &&& m = v ∧ w &&& m' = v' := by
  simp only [BitVec.eq_of_getLsbD_eq_iff] at *
  simp only [BitVec.getLsbD_and, BitVec.getLsbD_or, BitVec.getLsbD_zero] at *
  constructor
  · intro h
    constructor <;> intro i hi <;> specialize h i hi <;> specialize hv i hi <;>
      specialize hv' i hi <;> specialize hm i hi <;> grind
  · rintro ⟨h, h'⟩ i hi
    specialize h i hi
    specialize h' i hi
    grind

/-- One field holds its number. -/
theorem and_mask_eq_scatter_iff {hi lo n : Nat} (h : lo ≤ hi) (hhi : hi < 32)
    (hn : n < 2 ^ (hi + 1 - lo)) (w : BitVec 32) :
    w &&& (Slice.mk hi lo 0).mask = (Slice.mk hi lo 0).scatter (BitVec.ofNat 32 n) ↔
      w.toNat / 2 ^ lo % 2 ^ (hi + 1 - lo) = n := by
  have hlt : n < 2 ^ 32 := lt_of_lt_of_le hn (Nat.pow_le_pow_right (by decide) (by omega))
  have hmask : w &&& (Slice.mk hi lo 0).mask =
      (Slice.mk hi lo 0).scatter ((w.extractLsb' lo (hi + 1 - lo)).setWidth 32) := by
    have hproper : Layout.IsProper [⟨hi, lo, 0⟩] := by
      refine ⟨?_, ?_⟩
      · simp only [List.mem_singleton, forall_eq, Slice.length]
        omega
      · simp only [List.mem_singleton, forall_eq, true_or]
    have := Layout.scatter_gather hproper w
    simpa [Layout.scatter, Layout.gather, Layout.mask, Slice.gather, Slice.length] using this.symm
  rw [hmask]
  constructor
  · intro heq
    have hext : (w.extractLsb' lo (hi + 1 - lo)).setWidth 32 = BitVec.ofNat 32 n := by
      apply BitVec.eq_of_getLsbD_eq
      intro i hi32
      by_cases hil : i < hi + 1 - lo
      · have hbit := congrArg (fun v : BitVec 32 => v.getLsbD (lo + i)) heq
        simp only [Slice.getLsbD_scatter, Slice.length, Nat.add_sub_cancel_left,
          Nat.zero_add] at hbit
        simpa [show lo + i < 32 by omega, hil] using hbit
      · rw [BitVec.getLsbD_setWidth, BitVec.getLsbD_extractLsb', BitVec.getLsbD_ofNat,
          Nat.testBit_lt_two_pow (lt_of_lt_of_le hn (Nat.pow_le_pow_right (by decide) (by omega)))]
        simp [hil]
    have hnat := congrArg BitVec.toNat hext
    rw [BitVec.toNat_setWidth, toNat_extractLsb', BitVec.toNat_ofNat, Nat.mod_eq_of_lt hlt,
      Nat.mod_eq_of_lt (lt_of_lt_of_le (Nat.mod_lt _ (Nat.two_pow_pos _))
        (Nat.pow_le_pow_right (by decide) (by omega)))] at hnat
    exact hnat
  · intro hfield
    congr 1
    apply BitVec.eq_of_toNat_eq
    rw [BitVec.toNat_setWidth, toNat_extractLsb', hfield, BitVec.toNat_ofNat]

theorem value_and_care (fs : List (Nat × Nat × Nat)) :
    (ofFields fs).value &&& (ofFields fs).care = (ofFields fs).value := by
  apply BitVec.eq_of_getLsbD_eq
  intro i _
  simp only [ofFields, BitVec.getLsbD_and,
    getLsbD_foldr_or fun f : Nat × Nat × Nat =>
      (Slice.mk f.1 f.2.1 0).scatter (BitVec.ofNat 32 f.2.2),
    getLsbD_foldr_or fun f : Nat × Nat × Nat => (Slice.mk f.1 f.2.1 0).mask]
  rw [Bool.and_eq_left_iff_imp, List.any_eq_true, List.any_eq_true]
  rintro ⟨f, hf, hbit⟩
  refine ⟨f, hf, ?_⟩
  rw [Slice.getLsbD_scatter, Bool.and_eq_true] at hbit
  rw [Slice.getLsbD_mask]
  exact hbit.1

theorem matches_ofFields_iff {fs : List (Nat × Nat × Nat)} (hfs : AreFields fs) (w : BitVec 32) :
    (ofFields fs).Matches w ↔ ∀ f ∈ fs, w.toNat / 2 ^ f.2.1 % 2 ^ (f.1 + 1 - f.2.1) = f.2.2 := by
  induction fs with
  | nil => simp [ofFields, Matches]
  | cons f fs ih =>
    obtain ⟨hin, hsep⟩ := hfs
    rw [List.pairwise_cons] at hsep
    obtain ⟨hle, h32, hlt⟩ := hin f (by simp)
    have htail : AreFields fs := ⟨fun g hg => hin g (by simp [hg]), hsep.2⟩
    have hvalue := value_and_care [f]
    have hcare : (ofFields [f]).care &&& (ofFields fs).care = 0#32 := by
      apply BitVec.eq_of_getLsbD_eq
      intro i _
      simp only [ofFields, BitVec.getLsbD_and, BitVec.getLsbD_zero,
        getLsbD_foldr_or fun f : Nat × Nat × Nat => (Slice.mk f.1 f.2.1 0).mask]
      rw [Bool.and_eq_false_imp]
      intro hf
      rw [List.any_eq_false]
      intro g hg hbit
      rw [List.any_cons, List.any_nil, Bool.or_false, Slice.getLsbD_mask, decide_eq_true_eq] at hf
      rw [Slice.getLsbD_mask, decide_eq_true_eq] at hbit
      simp only [Slice.length] at hf hbit
      have := hsep.1 g hg
      have := hin g (by simp [hg])
      omega
    have hfield := and_mask_eq_scatter_iff hle h32 (by rwa [Nat.one_shiftLeft] at hlt) w
    rw [List.forall_mem_cons, ← ih htail, ← hfield]
    have hsplit := and_or_eq_or_iff (w := w) hvalue (value_and_care fs) hcare
    simpa [ofFields, Matches] using hsplit

theorem matches_nil (w : BitVec 32) : (ofFields []).Matches w := by
  rw [matches_ofFields_iff (by decide)]
  exact List.forall_mem_nil _

theorem matches_word_iff (v w : BitVec 32) : (word v).Matches w ↔ v = w := by
  rw [Matches, word, BitVec.and_allOnes, eq_comm]

end Pattern

end Rv32
