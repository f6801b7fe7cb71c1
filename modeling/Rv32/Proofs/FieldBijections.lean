import Rv32.Proofs.IntegerWords
import Rv32.Word.Basic

/-!
# Words taken apart by the base formats

Each of the six base formats takes any word apart into its opcode and the fields of the format, and
no bit is lost or looked at twice.

* `TakesApart read write admitted` : reading is a one-to-one correspondence between all words and all
  pairs of an opcode and admitted fields, and writing goes back;
* `TakesApart.of_write_eq_iff` : this holds if a word is written from the fields that it reads back to
  and from no others;
* `IType.toNat_rawImm`, `UType.imm_eq_toInt` : the immediates of two formats by the bits of the word;
* `fields_bijective` : the six formats with the immediates that they admit.
-/

namespace Rv32

variable {α : Type} {read : BitVec 32 → α} {write : α → BitVec 7 → BitVec 32} {admitted : Set α}

/-- Taking a word apart into its low seven bits and the fields that `read` finds is a one-to-one
correspondence onto all opcodes with all admitted fields, and `write` is its inverse. -/
def TakesApart (read : BitVec 32 → α) (write : α → BitVec 7 → BitVec 32) (admitted : Set α) : Prop :=
  Set.BijOn (fun w : BitVec 32 => (w.extractLsb' 0 7, read w)) Set.univ (Set.univ ×ˢ admitted) ∧
  Set.InvOn (fun p : BitVec 7 × α => write p.2 p.1)
    (fun w : BitVec 32 => (w.extractLsb' 0 7, read w)) Set.univ (Set.univ ×ˢ admitted)

theorem TakesApart.of_write_eq_iff (hread : ∀ w, read w ∈ admitted)
    (hwrite : ∀ f ∈ admitted, ∀ opcode w,
      write f opcode = w ↔ f = read w ∧ opcode = w.extractLsb' 0 7) :
    TakesApart read write admitted := by
  have hinv : Set.InvOn (fun p : BitVec 7 × α => write p.2 p.1)
      (fun w : BitVec 32 => (w.extractLsb' 0 7, read w)) Set.univ (Set.univ ×ˢ admitted) := by
    refine ⟨fun w _ => ?_, fun p hp => ?_⟩
    · exact (hwrite (read w) (hread w) _ w).2 ⟨rfl, rfl⟩
    · obtain ⟨hfields, hopcode⟩ := (hwrite p.2 hp.2 p.1 (write p.2 p.1)).1 rfl
      exact Prod.ext hopcode.symm hfields.symm
  exact ⟨hinv.bijOn (fun w _ => ⟨trivial, hread w⟩) fun p _ => trivial, hinv⟩

/-! ## Immediates by the bits of the word -/

/-- The immediate has the bits that stand in the word, whatever its sign. -/
theorem IType.ofInt_imm (w : BitVec 32) : BitVec.ofInt 12 (IType.read w).imm = IType.rawImm w := by
  have hn : Immediate.i.Admits (IType.read w).imm := Immediate.admits_read (by decide) w
  have hw := (IType.write_eq_iff (w.extractLsb' 0 7) w (IType.read w) hn).2 ⟨rfl, rfl⟩
  exact ((IType.place_eq_iff _ _ _ _ _ w).1 hw).1

theorem IType.toNat_rawImm (w : BitVec 32) :
    ((IType.rawImm w).toNat : Int) = (IType.read w).imm % 4096 := by
  rw [← ofInt_imm, BitVec.toNat_ofInt]
  have hnonneg : 0 ≤ (IType.read w).imm % 4096 := Int.emod_nonneg _ (by decide)
  exact Int.toNat_of_nonneg hnonneg

theorem UType.imm_eq_toInt (w : BitVec 32) :
    (UType.read w).imm = (w &&& 0xFFFFF000#32).toInt := by
  have hgather : Immediate.u.layout.gather w = w &&& 0xFFFFF000#32 := by
    apply BitVec.eq_of_getLsbD_eq
    intro i hi
    rw [show 0xFFFFF000#32 = (Slice.mk 31 12 12).mask by decide, BitVec.getLsbD_and,
      Slice.getLsbD_mask, Layout.getLsbD_gather, Immediate.u, List.any_cons, List.any_nil,
      Bool.or_false, Slice.getLsbD_gather, Bool.and_comm]
    by_cases h : 12 ≤ i
    · rw [show 12 + (i - 12) = i by omega]
    · simp [h]
  unfold UType.read Immediate.read
  rw [hgather]
  simp [Immediate.u, signExtend]

/-! ## The six formats -/

theorem RType.takesApart : TakesApart RType.read RType.write Set.univ :=
  .of_write_eq_iff (fun _ => trivial) fun f _ opcode w => f.write_eq_iff opcode w

theorem IType.takesApart :
    TakesApart (fun w => (IType.read w, IType.rawImm w)) (fun f => f.1.write)
      {f | -2048 ≤ f.1.imm ∧ f.1.imm ≤ 2047 ∧ (f.2.toNat : Int) = f.1.imm % 4096} := by
  refine .of_write_eq_iff (fun w => ?_) fun f hf opcode w => ?_
  · obtain ⟨hle, hge⟩ := Immediate.i_admits_iff.1 (Immediate.admits_read (by decide) w)
    exact ⟨hle, hge, IType.toNat_rawImm w⟩
  · obtain ⟨hle, hge, hraw⟩ := hf
    -- the immediate decides what it is without its sign
    have hsame : f.1 = IType.read w → f.2 = IType.rawImm w := by
      intro hfields
      apply BitVec.eq_of_toNat_eq
      rw [hfields, ← IType.toNat_rawImm] at hraw
      exact_mod_cast hraw
    rw [f.1.write_eq_iff opcode w (Immediate.i_admits_iff.2 ⟨hle, hge⟩), Prod.ext_iff,
      and_iff_left_of_imp hsame]

theorem SType.takesApart :
    TakesApart SType.read SType.write {f | -2048 ≤ f.imm ∧ f.imm ≤ 2047} := by
  refine .of_write_eq_iff (fun w => ?_) fun f hf opcode w => ?_
  · exact Immediate.s_admits_iff.1 (Immediate.admits_read (by decide) w)
  · exact f.write_eq_iff opcode w (Immediate.s_admits_iff.2 hf)

theorem BType.takesApart :
    TakesApart BType.read BType.write {f | 2 ∣ f.imm ∧ -4096 ≤ f.imm ∧ f.imm ≤ 4094} := by
  refine .of_write_eq_iff (fun w => ?_) fun f hf opcode w => ?_
  · exact Immediate.b_admits_iff.1 (Immediate.admits_read (by decide) w)
  · exact f.write_eq_iff opcode w (Immediate.b_admits_iff.2 hf)

theorem UType.takesApart :
    TakesApart UType.read UType.write
      {f | 4096 ∣ f.imm ∧ -2147483648 ≤ f.imm ∧ f.imm ≤ 2147483647} := by
  refine .of_write_eq_iff (fun w => ?_) fun f hf opcode w => ?_
  · exact Immediate.u_admits_iff.1 (Immediate.admits_read (by decide) w)
  · exact f.write_eq_iff opcode w (Immediate.u_admits_iff.2 hf)

theorem JType.takesApart :
    TakesApart JType.read JType.write {f | 2 ∣ f.imm ∧ -1048576 ≤ f.imm ∧ f.imm ≤ 1048574} := by
  refine .of_write_eq_iff (fun w => ?_) fun f hf opcode w => ?_
  · exact Immediate.j_admits_iff.1 (Immediate.admits_read (by decide) w)
  · exact f.write_eq_iff opcode w (Immediate.j_admits_iff.2 hf)

theorem Word.field_lt {hi lo n : Nat} (h : hi - lo < n) (w : Word) : w.field hi lo < 2 ^ n :=
  lt_of_lt_of_le (w.value.extractLsb hi lo).isLt (Nat.pow_le_pow_right (by decide) h)

/-- Every word is taken apart by each of the base formats into its opcode and the fields of the
format: registers, function codes, and an immediate of the range and the multiples that the format
admits. All combinations occur, each in one word, which is the one that has the pieces in the order
of the format. The I format shows its immediate also without the sign. The numbers in the fields are
those of the bits, and they fit into the 8, 16 or 32 bits in which they are handed on. -/
theorem fields_bijective :
    TakesApart RType.read RType.write Set.univ ∧
    TakesApart (fun w => (IType.read w, IType.rawImm w)) (fun f => f.1.write)
      {f | -2048 ≤ f.1.imm ∧ f.1.imm ≤ 2047 ∧ (f.2.toNat : Int) = f.1.imm % 4096} ∧
    TakesApart SType.read SType.write {f | -2048 ≤ f.imm ∧ f.imm ≤ 2047} ∧
    TakesApart BType.read BType.write {f | 2 ∣ f.imm ∧ -4096 ≤ f.imm ∧ f.imm ≤ 4094} ∧
    TakesApart UType.read UType.write
      {f | 4096 ∣ f.imm ∧ -2147483648 ≤ f.imm ∧ f.imm ≤ 2147483647} ∧
    TakesApart JType.read JType.write {f | 2 ∣ f.imm ∧ -1048576 ≤ f.imm ∧ f.imm ≤ 1048574} ∧
    ∀ w : Word,
      (RType.read w.value).rd.toNat = w.field 11 7 ∧ w.field 11 7 < 2 ^ 8 ∧
      (RType.read w.value).rs1.toNat = w.field 19 15 ∧ w.field 19 15 < 2 ^ 8 ∧
      (RType.read w.value).rs2.toNat = w.field 24 20 ∧ w.field 24 20 < 2 ^ 8 ∧
      (RType.read w.value).funct3.toNat = w.field 14 12 ∧ w.field 14 12 < 2 ^ 8 ∧
      (RType.read w.value).funct7.toNat = w.field 31 25 ∧ w.field 31 25 < 2 ^ 8 ∧
      (IType.rawImm w.value).toNat = w.field 31 20 ∧ w.field 31 20 < 2 ^ 16 ∧
      (UType.read w.value).imm = (w.value &&& 0xFFFFF000#32).toInt := by
  refine ⟨RType.takesApart, IType.takesApart, SType.takesApart, BType.takesApart, UType.takesApart,
    JType.takesApart, fun w => ?_⟩
  exact ⟨rfl, w.field_lt (by decide), rfl, w.field_lt (by decide), rfl, w.field_lt (by decide), rfl,
    w.field_lt (by decide), rfl, w.field_lt (by decide), rfl, w.field_lt (by decide),
    UType.imm_eq_toInt w.value⟩

end Rv32
