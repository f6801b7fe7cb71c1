import Mathlib
import Rv32.Proofs.BitViews
import Rv32.Proofs.CompressedFields

/-!
# Immediates of half words

The bits of a compressed immediate stand scattered in the word. Reading puts them in order, and no
bit is dropped, doubled or taken from elsewhere.

* `InRuns`, `Word.patterns` : the positions in some runs of bits, and the words with no bit set
  outside of them;
* `Immediate.Unscrambles` : the immediate depends on the bits in the runs alone, whose patterns are
  in one-to-one correspondence with its values, and writing goes back;
* `Immediate.IsScattered` : the condition on the slices of the immediate, which is decided;
* `Immediate.Unscrambles.of_isScattered` : the condition is enough;
* `Immediate.read_value_eq_sum` : the value by the fields of the word;
* `Immediate.compressed_bijective` : the runs, the values and the fields of the thirteen immediates.
-/

namespace Rv32

/-- The position `i` is in one of the runs, each of which goes from an upper bit down to a lower
one. -/
def InRuns (runs : List (Nat × Nat)) (i : Nat) : Prop := ∃ r ∈ runs, r.2 ≤ i ∧ i ≤ r.1

instance (runs : List (Nat × Nat)) (i : Nat) : Decidable (InRuns runs i) :=
  inferInstanceAs (Decidable (∃ r ∈ runs, _))

/-- The patterns of the bits in the runs, as words of width `k` with zeros elsewhere. -/
def Word.patterns (k : Width) (runs : List (Nat × Nat)) : Set Word :=
  {w | w.width = k ∧ ∀ i, w.bit i = 1 → InRuns runs i}

namespace Immediate

/-- The immediate is a number of the bits in the runs, each pattern of which is one of the values
and each value one pattern, in words of either width. -/
structure Unscrambles (m : Immediate) (runs : List (Nat × Nat)) (values : Set Int) : Prop where
  /-- No other bit matters, and neither does the width. -/
  depends : ∀ v w : Word, (∀ i, InRuns runs i → v.bit i = w.bit i) →
    m.read v.value = m.read w.value
  bijOn : ∀ k, Set.BijOn (fun w : Word => m.read w.value) (Word.patterns k runs) values
  invOn : ∀ k, Set.InvOn (fun n => Word.ofNat k (m.write n).toNat)
    (fun w : Word => m.read w.value) (Word.patterns k runs) values

/-- The slices hold each bit of the value once, and each bit in the runs once, in the lower half of
a word. -/
def IsScattered (m : Immediate) (runs : List (Nat × Nat)) : Prop :=
  m.IsExact ∧ m.layout.IsSeparate ∧ (∀ r ∈ runs, r.1 < 16) ∧
  ∀ i < 32, InRuns runs i ↔ ∃ s ∈ m.layout, s.lo ≤ i ∧ i < s.lo + s.length

instance (m : Immediate) (runs : List (Nat × Nat)) : Decidable (m.IsScattered runs) :=
  inferInstanceAs (Decidable (_ ∧ _))

variable {m : Immediate} {runs : List (Nat × Nat)} {values : Set Int} {n : Int} {i : Nat}
  {k : Width}

/-! ## Reading -/

theorem read_congr (h : m.IsScattered runs) {v w : Word}
    (hvw : ∀ i, InRuns runs i → v.bit i = w.bit i) : m.read v.value = m.read w.value := by
  obtain ⟨hm, -, -, hruns⟩ := h
  rw [read_eq_read_iff hm]
  intro s hs
  apply BitVec.eq_of_getLsbD_eq
  intro j hj
  rw [BitVec.getLsbD_extractLsb', BitVec.getLsbD_extractLsb']
  by_cases h32 : s.lo + j < 32
  · have hbit := hvw _ ((hruns _ h32).2 ⟨s, hs, by omega⟩)
    have hsame : v.value.getLsbD (s.lo + j) = w.value.getLsbD (s.lo + j) := by
      rw [Bool.eq_iff_iff, ← Word.bit_eq_one_iff, ← Word.bit_eq_one_iff, hbit]
    rw [hsame]
  · rw [BitVec.getLsbD_of_ge _ _ (by omega), BitVec.getLsbD_of_ge _ _ (by omega)]

/-- Where no other bit is set, the mask takes nothing away. -/
theorem write_read_of_mem (h : m.IsScattered runs) {w : Word} (hw : w ∈ Word.patterns k runs) :
    m.write (m.read w.value) = w.value := by
  obtain ⟨hm, -, -, hruns⟩ := h
  rw [write_read hm]
  apply BitVec.eq_of_getLsbD_eq
  intro i hi
  rw [BitVec.getLsbD_and, Bool.and_eq_left_iff_imp, Layout.getLsbD_mask, List.any_eq_true]
  intro hbit
  obtain ⟨s, hs, hin⟩ := (hruns i hi).1 (hw.2 i (Word.bit_eq_one_iff.2 hbit))
  refine ⟨s, hs, ?_⟩
  rw [Slice.getLsbD_mask, decide_eq_true_eq]
  exact ⟨hi, hin⟩

/-! ## Writing -/

theorem inRuns_of_write (h : m.IsScattered runs) (hbit : (m.write n).getLsbD i = true) :
    InRuns runs i := by
  obtain ⟨-, -, -, hruns⟩ := h
  rw [write, Layout.getLsbD_scatter, List.any_eq_true] at hbit
  obtain ⟨s, hs, hslice⟩ := hbit
  rw [Slice.getLsbD_scatter, Bool.and_eq_true, decide_eq_true_eq] at hslice
  exact (hruns i hslice.1.1).2 ⟨s, hs, hslice.1.2⟩

/-- What is written fits into half a word. -/
theorem value_ofNat_write (h : m.IsScattered runs) (k : Width) (n : Int) :
    (Word.ofNat k (m.write n).toNat).value = m.write n := by
  have hlt : (m.write n).toNat < 2 ^ k.bits := by
    cases k with
    | half =>
      apply Nat.lt_pow_two_of_testBit
      intro i hi
      by_contra hbit
      obtain ⟨r, hr, -, hle⟩ := inRuns_of_write h (Bool.of_not_eq_false hbit)
      have hlow : r.1 < 16 := h.2.2.1 r hr
      have hhigh : 16 ≤ i := hi
      omega
    | full => exact (m.write n).isLt
  exact BitVec.eq_of_toNat_eq (Word.toNat_value_ofNat hlt)

theorem Unscrambles.of_isScattered (h : m.IsScattered runs)
    (hvalues : ∀ n, m.Admits n ↔ n ∈ values) : m.Unscrambles runs values := by
  have hinv (k : Width) : Set.InvOn (fun n => Word.ofNat k (m.write n).toNat)
      (fun w : Word => m.read w.value) (Word.patterns k runs) values := by
    refine ⟨fun w hw => ?_, fun n hn => ?_⟩
    · change Word.ofNat k (m.write (m.read w.value)).toNat = w
      rw [write_read_of_mem h hw, ← hw.1, Word.ofNat_value]
    · change m.read (Word.ofNat k (m.write n).toNat).value = n
      rw [value_ofNat_write h, read_write h.1 h.2.1 ((hvalues n).2 hn)]
  refine ⟨fun v w => read_congr h, fun k => (hinv k).bijOn ?_ ?_, hinv⟩
  · exact fun w _ => (hvalues _).1 (admits_read h.1 w.value)
  · refine fun n _ => ⟨Word.width_ofNat k _, fun i hi => inRuns_of_write (n := n) h ?_⟩
    rwa [Word.bit_eq_one_iff, value_ofNat_write h] at hi

/-! ## The compressed formats -/

/-- The value by the fields of the word, at the weights of the slices. -/
theorem read_value_eq_sum (hm : m.IsExact) (hw : m.IsWeighted) (w : Word) :
    m.read w.value = (m.layout.map fun s => m.weight s * w.field s.hi s.lo).sum := by
  rw [read_eq_sum hm hw]
  refine congrArg List.sum (List.map_congr_left fun s hs => ?_)
  have hlength : s.length = s.hi - s.lo + 1 := by
    have hpos : 0 < s.length := hw.2.1 s hs
    unfold Slice.length at hpos ⊢
    omega
  rw [Word.field_eq, hlength]

/-- The multiples of the size of an access below `c + 1` times the size are those up to `c` times. -/
theorem multiples_iff (k : Access) (c n : Int) :
    k.bytes ∣ n ∧ 0 ≤ n ∧ n < (c + 1) * k.bytes ↔ k.bytes ∣ n ∧ 0 ≤ n ∧ n ≤ c * k.bytes := by
  cases k <;> simp only [Access.bytes] <;> omega

theorem unscrambles_offset (k : Access) :
    k.offset.Unscrambles [(12, 10), (6, 5)] {n | k.bytes ∣ n ∧ 0 ≤ n ∧ n ≤ 31 * k.bytes} :=
  .of_isScattered (by cases k <;> decide) fun n => k.offset_admits_iff.trans (multiples_iff k 31 n)

theorem unscrambles_loadOffset (k : Access) :
    k.loadOffset.Unscrambles [(12, 12), (6, 2)] {n | k.bytes ∣ n ∧ 0 ≤ n ∧ n ≤ 63 * k.bytes} :=
  .of_isScattered (by cases k <;> decide) fun n =>
    k.loadOffset_admits_iff.trans (multiples_iff k 63 n)

theorem unscrambles_storeOffset (k : Access) :
    k.storeOffset.Unscrambles [(12, 7)] {n | k.bytes ∣ n ∧ 0 ≤ n ∧ n ≤ 63 * k.bytes} :=
  .of_isScattered (by cases k <;> decide) fun n =>
    k.storeOffset_admits_iff.trans (multiples_iff k 63 n)

/-- Each of the thirteen immediates of the compressed formats is a number of the bits in its runs,
whatever the other bits and the width of the word are, and the patterns of these bits are in
one-to-one correspondence with the values that the architecture gives it. Which value a pattern has
is said by the weights of its fields. -/
theorem compressed_bijective :
    stackAddress.Unscrambles [(12, 5)] {n | 4 ∣ n ∧ 0 ≤ n ∧ n ≤ 1020} ∧
    wordOffset.Unscrambles [(12, 10), (6, 5)] {n | 4 ∣ n ∧ 0 ≤ n ∧ n ≤ 124} ∧
    doubleOffset.Unscrambles [(12, 10), (6, 5)] {n | 8 ∣ n ∧ 0 ≤ n ∧ n ≤ 248} ∧
    small.Unscrambles [(12, 12), (6, 2)] {n | -32 ≤ n ∧ n ≤ 31} ∧
    shortShamt.Unscrambles [(12, 12), (6, 2)] {n | 0 ≤ n ∧ n ≤ 63} ∧
    stackStep.Unscrambles [(12, 12), (6, 2)] {n | 16 ∣ n ∧ -512 ≤ n ∧ n ≤ 496} ∧
    smallUpper.Unscrambles [(12, 12), (6, 2)] {n | 4096 ∣ n ∧ -131072 ≤ n ∧ n ≤ 126976} ∧
    stackLoadWord.Unscrambles [(12, 12), (6, 2)] {n | 4 ∣ n ∧ 0 ≤ n ∧ n ≤ 252} ∧
    stackLoadDouble.Unscrambles [(12, 12), (6, 2)] {n | 8 ∣ n ∧ 0 ≤ n ∧ n ≤ 504} ∧
    stackStoreWord.Unscrambles [(12, 7)] {n | 4 ∣ n ∧ 0 ≤ n ∧ n ≤ 252} ∧
    stackStoreDouble.Unscrambles [(12, 7)] {n | 8 ∣ n ∧ 0 ≤ n ∧ n ≤ 504} ∧
    jumpOffset.Unscrambles [(12, 2)] {n | 2 ∣ n ∧ -2048 ≤ n ∧ n ≤ 2046} ∧
    branchOffset.Unscrambles [(12, 10), (6, 2)] {n | 2 ∣ n ∧ -256 ≤ n ∧ n ≤ 254} ∧
    ∀ w : Word,
      stackAddress.read w.value =
        64 * w.field 10 7 + 16 * w.field 12 11 + 8 * w.bit 5 + 4 * w.bit 6 ∧
      wordOffset.read w.value = 64 * w.bit 5 + 8 * w.field 12 10 + 4 * w.bit 6 ∧
      doubleOffset.read w.value = 64 * w.field 6 5 + 8 * w.field 12 10 ∧
      small.read w.value = w.field 6 2 - 32 * w.bit 12 ∧
      shortShamt.read w.value = w.field 6 2 + 32 * w.bit 12 ∧
      stackStep.read w.value = 128 * w.field 4 3 + 64 * w.bit 5 + 32 * w.bit 2 + 16 * w.bit 6 -
        512 * w.bit 12 ∧
      smallUpper.read w.value = 4096 * w.field 6 2 - 131072 * w.bit 12 ∧
      stackLoadWord.read w.value = 64 * w.field 3 2 + 32 * w.bit 12 + 4 * w.field 6 4 ∧
      stackLoadDouble.read w.value = 64 * w.field 4 2 + 32 * w.bit 12 + 8 * w.field 6 5 ∧
      stackStoreWord.read w.value = 64 * w.field 8 7 + 4 * w.field 12 9 ∧
      stackStoreDouble.read w.value = 64 * w.field 9 7 + 8 * w.field 12 10 ∧
      jumpOffset.read w.value = 1024 * w.bit 8 + 256 * w.field 10 9 + 128 * w.bit 6 +
        64 * w.bit 7 + 32 * w.bit 2 + 16 * w.bit 11 + 2 * w.field 5 3 - 2048 * w.bit 12 ∧
      branchOffset.read w.value = 64 * w.field 6 5 + 32 * w.bit 2 + 8 * w.field 11 10 +
        2 * w.field 4 3 - 256 * w.bit 12 := by
  refine ⟨?_, unscrambles_offset .word, unscrambles_offset .double, ?_, ?_, ?_, ?_,
    unscrambles_loadOffset .word, unscrambles_loadOffset .double, unscrambles_storeOffset .word,
    unscrambles_storeOffset .double, ?_, ?_, fun w => ?_⟩
  · exact .of_isScattered (by decide) fun _ => stackAddress_admits_iff
  · exact .of_isScattered (by decide) fun _ => small_admits_iff
  · exact .of_isScattered (by decide) fun _ => shortShamt_admits_iff
  · exact .of_isScattered (by decide) fun _ => stackStep_admits_iff
  · exact .of_isScattered (by decide) fun _ => smallUpper_admits_iff
  · exact .of_isScattered (by decide) fun _ => jumpOffset_admits_iff
  · exact .of_isScattered (by decide) fun _ => branchOffset_admits_iff
  -- the sums of the slices, in another order
  · refine ⟨?_, ?_, ?_, ?_, ?_, ?_, ?_, ?_, ?_, ?_, ?_, ?_, ?_⟩ <;>
      rw [read_value_eq_sum (by decide) (by decide)] <;>
      simp [weight, Word.field_self, stackAddress, wordOffset, doubleOffset, small, shortShamt,
        stackStep, smallUpper, stackLoadWord, stackLoadDouble, stackStoreWord, stackStoreDouble,
        jumpOffset, branchOffset] <;>
      omega

end Immediate

end Rv32
