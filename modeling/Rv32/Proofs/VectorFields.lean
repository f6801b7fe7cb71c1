import Rv32.Proofs.VectorShapes

/-!
# Fields of vector words

* `VType.arith_eq_iff` and its like : a word is put together from the fields that it reads back to;
* `Pattern.matches_funct6_iff` and its like : the fixed bits of an encoding as fields;
* `VectorOperand.eq_read`, `Stride.eq_read` : the operand with the bits of a field is the one that is
  read from it.
-/

namespace Rv32

/-! ## Words with given fields -/

namespace VType

variable {vm : BitVec 1} {mop : BitVec 2} {funct3 width : BitVec 3} {first second vd : BitVec 5}
  {funct6 : BitVec 6} {opcode : BitVec 7} {w : BitVec 32}

theorem arith_eq_iff : arith funct6 vm second first funct3 vd = w ↔
    funct6 = w.extractLsb' 26 6 ∧ vm = w.extractLsb' 25 1 ∧ second = w.extractLsb' 20 5 ∧
      first = w.extractLsb' 15 5 ∧ funct3 = w.extractLsb' 12 3 ∧ vd = w.extractLsb' 7 5 ∧
        0b1010111 = w.extractLsb' 0 7 := by
  rw [eq_iff_eq_piece]
  simp only [arith, append_eq_piece_iff, and_assoc]
  rfl

theorem memory_eq_iff : memory mop vm second first width vd opcode = w ↔
    0b000 = w.extractLsb' 29 3 ∧ 0b0 = w.extractLsb' 28 1 ∧ mop = w.extractLsb' 26 2 ∧
      vm = w.extractLsb' 25 1 ∧ second = w.extractLsb' 20 5 ∧ first = w.extractLsb' 15 5 ∧
        width = w.extractLsb' 12 3 ∧ vd = w.extractLsb' 7 5 ∧ opcode = w.extractLsb' 0 7 := by
  rw [eq_iff_eq_piece]
  simp only [memory, append_eq_piece_iff, and_assoc]
  rfl

theorem vsetvli_eq_iff {vtype : BitVec 11} {rs1 rd : BitVec 5} : vsetvli vtype rs1 rd = w ↔
    0b0 = w.extractLsb' 31 1 ∧ vtype = w.extractLsb' 20 11 ∧ rs1 = w.extractLsb' 15 5 ∧
      0b111 = w.extractLsb' 12 3 ∧ rd = w.extractLsb' 7 5 ∧ 0b1010111 = w.extractLsb' 0 7 := by
  rw [eq_iff_eq_piece]
  simp only [vsetvli, append_eq_piece_iff, and_assoc]
  rfl

theorem vsetivli_eq_iff {vtype : BitVec 10} {uimm rd : BitVec 5} : vsetivli vtype uimm rd = w ↔
    0b11 = w.extractLsb' 30 2 ∧ vtype = w.extractLsb' 20 10 ∧ uimm = w.extractLsb' 15 5 ∧
      0b111 = w.extractLsb' 12 3 ∧ rd = w.extractLsb' 7 5 ∧ 0b1010111 = w.extractLsb' 0 7 := by
  rw [eq_iff_eq_piece]
  simp only [vsetivli, append_eq_piece_iff, and_assoc]
  rfl

theorem vsetvl_eq_iff {rs2 rs1 rd : BitVec 5} : vsetvl rs2 rs1 rd = w ↔
    0b1000000 = w.extractLsb' 25 7 ∧ rs2 = w.extractLsb' 20 5 ∧ rs1 = w.extractLsb' 15 5 ∧
      0b111 = w.extractLsb' 12 3 ∧ rd = w.extractLsb' 7 5 ∧ 0b1010111 = w.extractLsb' 0 7 := by
  rw [eq_iff_eq_piece]
  simp only [vsetvl, append_eq_piece_iff, and_assoc]
  rfl

end VType

/-! ## Fixed bits -/

namespace Pattern

variable (funct3 : BitVec 3) (funct6 : BitVec 6) (w : BitVec 32)

theorem matches_funct6_iff :
    (ofFields [(31, 26, funct6.toNat), (14, 12, funct3.toNat)]).Matches w ↔
      funct6 = w.extractLsb' 26 6 ∧ funct3 = w.extractLsb' 12 3 := by
  have hfields : AreFields [(31, 26, funct6.toNat), (14, 12, funct3.toNat)] := by
    have := funct3.isLt
    have := funct6.isLt
    simp [AreFields]
    omega
  rw [matches_ofFields_iff hfields, List.forall_mem_cons, List.forall_mem_singleton]
  exact and_congr (field_eq_toNat_iff funct6 w) (field_eq_toNat_iff funct3 w)

theorem matches_merge_iff :
    (ofFields [(31, 26, 0b010111), (25, 25, 0), (14, 12, funct3.toNat)]).Matches w ↔
      0b010111 = w.extractLsb' 26 6 ∧ 0 = w.extractLsb' 25 1 ∧ funct3 = w.extractLsb' 12 3 := by
  have hfields : AreFields [(31, 26, 0b010111), (25, 25, 0), (14, 12, funct3.toNat)] := by
    revert funct3
    decide
  rw [matches_ofFields_iff hfields, List.forall_mem_cons, List.forall_mem_cons,
    List.forall_mem_singleton]
  exact and_congr (field_eq_toNat_iff (0b010111 : BitVec 6) w)
    (and_congr (field_eq_toNat_iff (0 : BitVec 1) w) (field_eq_toNat_iff funct3 w))

theorem matches_move_iff :
    (ofFields [(31, 26, 0b010111), (25, 25, 1), (24, 20, 0), (14, 12, funct3.toNat)]).Matches w ↔
      0b010111 = w.extractLsb' 26 6 ∧ 1 = w.extractLsb' 25 1 ∧ 0 = w.extractLsb' 20 5 ∧
        funct3 = w.extractLsb' 12 3 := by
  have hfields : AreFields
      [(31, 26, 0b010111), (25, 25, 1), (24, 20, 0), (14, 12, funct3.toNat)] := by
    revert funct3
    decide
  rw [matches_ofFields_iff hfields, List.forall_mem_cons, List.forall_mem_cons,
    List.forall_mem_cons, List.forall_mem_singleton]
  exact and_congr (field_eq_toNat_iff (0b010111 : BitVec 6) w)
    (and_congr (field_eq_toNat_iff (1 : BitVec 1) w)
      (and_congr (field_eq_toNat_iff (0 : BitVec 5) w) (field_eq_toNat_iff funct3 w)))

theorem matches_unit_iff : (VectorOp.unit funct3.toNat).Matches w ↔
    0b000 = w.extractLsb' 29 3 ∧ 0b0 = w.extractLsb' 28 1 ∧ 0b00 = w.extractLsb' 26 2 ∧
      0 = w.extractLsb' 20 5 ∧ funct3 = w.extractLsb' 12 3 := by
  have hfields : AreFields
      [(31, 29, 0), (28, 28, 0), (27, 26, 0b00), (24, 20, 0), (14, 12, funct3.toNat)] := by
    revert funct3
    decide
  rw [VectorOp.unit, matches_ofFields_iff hfields, List.forall_mem_cons, List.forall_mem_cons,
    List.forall_mem_cons, List.forall_mem_cons, List.forall_mem_singleton]
  exact and_congr (field_eq_toNat_iff (0b000 : BitVec 3) w)
    (and_congr (field_eq_toNat_iff (0b0 : BitVec 1) w)
      (and_congr (field_eq_toNat_iff (0b00 : BitVec 2) w)
        (and_congr (field_eq_toNat_iff (0 : BitVec 5) w) (field_eq_toNat_iff funct3 w))))

theorem matches_strided_iff : (VectorOp.strided funct3.toNat).Matches w ↔
    0b000 = w.extractLsb' 29 3 ∧ 0b0 = w.extractLsb' 28 1 ∧ 0b10 = w.extractLsb' 26 2 ∧
      funct3 = w.extractLsb' 12 3 := by
  have hfields : AreFields
      [(31, 29, 0), (28, 28, 0), (27, 26, 0b10), (14, 12, funct3.toNat)] := by
    revert funct3
    decide
  rw [VectorOp.strided, matches_ofFields_iff hfields, List.forall_mem_cons, List.forall_mem_cons,
    List.forall_mem_cons, List.forall_mem_singleton]
  exact and_congr (field_eq_toNat_iff (0b000 : BitVec 3) w)
    (and_congr (field_eq_toNat_iff (0b0 : BitVec 1) w)
      (and_congr (field_eq_toNat_iff (0b10 : BitVec 2) w) (field_eq_toNat_iff funct3 w)))

theorem matches_vsetvli_iff : (ofFields [(31, 31, 0), (14, 12, 0b111)]).Matches w ↔
    0b0 = w.extractLsb' 31 1 ∧ 0b111 = w.extractLsb' 12 3 := by
  rw [matches_ofFields_iff (by decide), List.forall_mem_cons, List.forall_mem_singleton]
  exact and_congr (field_eq_toNat_iff (0b0 : BitVec 1) w) (field_eq_toNat_iff (0b111 : BitVec 3) w)

theorem matches_vsetivli_iff : (ofFields [(31, 30, 0b11), (14, 12, 0b111)]).Matches w ↔
    0b11 = w.extractLsb' 30 2 ∧ 0b111 = w.extractLsb' 12 3 := by
  rw [matches_ofFields_iff (by decide), List.forall_mem_cons, List.forall_mem_singleton]
  exact and_congr (field_eq_toNat_iff (0b11 : BitVec 2) w) (field_eq_toNat_iff (0b111 : BitVec 3) w)

theorem matches_vsetvl_iff : (ofFields [(31, 25, 0b1000000), (14, 12, 0b111)]).Matches w ↔
    0b1000000 = w.extractLsb' 25 7 ∧ 0b111 = w.extractLsb' 12 3 := by
  rw [matches_ofFields_iff (by decide), List.forall_mem_cons, List.forall_mem_singleton]
  exact and_congr (field_eq_toNat_iff (0b1000000 : BitVec 7) w)
    (field_eq_toNat_iff (0b111 : BitVec 3) w)

end Pattern

/-! ## Operands -/

theorem Masking.read_chosen (w : BitVec 32) :
    chosen.read w = some (.ofBit (w.extractLsb' 25 1)) := by
  have hbit : w.extractLsb' 25 1 = 1 ↔ w.getLsbD 25 := by
    rw [← BitVec.toNat_inj, toNat_extractLsb', BitVec.getLsbD, Nat.testBit_eq_decide_div_mod_eq,
      decide_eq_true_eq]
    rfl
  simp only [read, Mask.ofBit, hbit]

theorem Immediate.simm_admits_iff {n : Int} : simm.Admits n ↔ -16 ≤ n ∧ n ≤ 15 := by
  simp [Admits, simm]
  omega

theorem Immediate.ofInt_eq_iff_simm {n : Int} (range : -16 ≤ n ∧ n ≤ 15) (w : BitVec 32) :
    BitVec.ofInt 5 n = w.extractLsb' 15 5 ↔ n = simm.read w := by
  have hn : (BitVec.ofInt 5 n).extractLsb' 0 5 = BitVec.ofInt 5 n := BitVec.extractLsb'_eq_self
  rw [eq_read_iff (by decide) (simm_admits_iff.2 range), simm, List.forall_mem_singleton]
  exact iff_of_eq (congrArg (· = _) hn.symm)

theorem Immediate.read_uimm (w : BitVec 32) : uimm.read w = (w.extractLsb' 15 5).toNat :=
  read_unsigned w rfl (by decide)

namespace VectorOperand

variable {k : OperandKind} {w : BitVec 32}

/-- The operand that has the bits of a word is the one that is read from the word. -/
theorem eq_read {operand : VectorOperand k} (h : operand.bits = w.extractLsb' 15 5) :
    operand.src = k.srcFields.map (·.read w) ∧ operand.imm = k.immFields.map (·.read w) := by
  cases operand with
  | vector vs1 =>
    obtain rfl : vs1 = _ := h
    simp [src, imm, OperandKind.srcFields, OperandKind.immFields]
  | register rs1 =>
    obtain rfl : rs1 = _ := h
    simp [src, imm, OperandKind.srcFields, OperandKind.immFields]
  | signed n range =>
    obtain rfl := (Immediate.ofInt_eq_iff_simm range w).1 h
    simp [src, imm, OperandKind.srcFields, OperandKind.immFields]
  | unsigned n =>
    obtain rfl : n = _ := h
    simp [src, imm, OperandKind.srcFields, OperandKind.immFields, Immediate.read_uimm]

theorem exists_bits (k : OperandKind) (w : BitVec 32) :
    ∃ operand : VectorOperand k, operand.bits = w.extractLsb' 15 5 := by
  cases k with
  | vector => exact ⟨vector (w.extractLsb' 15 5), rfl⟩
  | register => exact ⟨register (w.extractLsb' 15 5), rfl⟩
  | signed =>
    have range := Immediate.simm_admits_iff.1 (Immediate.admits_read (by decide) w)
    exact ⟨signed _ range, (Immediate.ofInt_eq_iff_simm range w).2 rfl⟩
  | unsigned => exact ⟨unsigned (w.extractLsb' 15 5), rfl⟩

end VectorOperand

namespace Stride

variable {a : Addressing} {width : BitVec 3} {w : BitVec 32}

theorem eq_read {stride : Stride a} (h : stride.bits = w.extractLsb' 20 5) :
    stride.src = a.srcFields.map (·.read w) := by
  cases stride with
  | unit => rfl
  | register rs2 =>
    obtain rfl : rs2 = _ := h
    simp [src, Addressing.srcFields]

/-- The mode of a word allows the stride that the word has. -/
theorem matches_pattern_iff : (a.pattern width.toNat).Matches w ↔
    0b000 = w.extractLsb' 29 3 ∧ 0b0 = w.extractLsb' 28 1 ∧ a.mop = w.extractLsb' 26 2 ∧
      (∃ stride : Stride a, stride.bits = w.extractLsb' 20 5) ∧ width = w.extractLsb' 12 3 := by
  cases a with
  | unit =>
    have hstride : (∃ stride : Stride .unit, stride.bits = w.extractLsb' 20 5) ↔
        0 = w.extractLsb' 20 5 := by
      constructor
      · rintro ⟨⟨⟩, h⟩
        exact h
      · intro h
        exact ⟨unit, h⟩
    rw [hstride]
    exact Pattern.matches_unit_iff width w
  | strided =>
    have hstride : ∃ stride : Stride .strided, stride.bits = w.extractLsb' 20 5 :=
      ⟨register (w.extractLsb' 20 5), rfl⟩
    rw [and_iff_right hstride]
    exact Pattern.matches_strided_iff width w

end Stride

end Rv32
