import Rv32.Proofs.Decode
import Rv32.Proofs.Fields

/-!
# What a word does, read off its bits

The kind of an operation is stated beside its encoding. Here it is read off the word: off the major
opcode of a full word, and off the quadrant and `funct3` of a half word. Only jumps to the address
in a register need more, as they share `funct3` with operations on registers.

* `Word.IsLoad`, `Word.IsStore`, `Word.IsBranch`, `Word.IsJumpPcRelative`, `Word.IsRegisterJump` :
  what the bits say;
* `Encoding.Settles` : all words of the encoding have the bits of a pattern, or none has;
* `Mnemonic.kind_iff` : the kinds of the table by opcode and `funct3`;
* `Mnemonic.kind_iff_of_fits`, `Mnemonic.kind_jump_iff_of_fits` : the same by the bits of a word;
* `Isa.decode_classifies` : a decoded instruction is what its word says.
-/

namespace Rv32

/-! ## Kinds of words -/

namespace Word

variable (w : Word)

def IsLoad : Prop := w.opcode = .load ∨
  w.opcode ∈ [.quadrant 0, .quadrant 2] ∧ w.field 15 13 ∈ [1, 2, 3]

def IsStore : Prop := w.opcode = .store ∨
  w.opcode ∈ [.quadrant 0, .quadrant 2] ∧ w.field 15 13 ∈ [5, 6, 7]

def IsBranch : Prop := w.opcode = .branch ∨ w.opcode = .quadrant 1 ∧ w.field 15 13 ∈ [6, 7]

def IsJumpPcRelative : Prop := w.opcode = .jal ∨ w.opcode = .quadrant 1 ∧ w.field 15 13 ∈ [1, 5]

/-- Among the half words with `funct3 = 100` the second register is zero and the first is not. -/
def IsRegisterJump : Prop := w.opcode = .jalr ∨
  w.opcode = .quadrant 2 ∧ w.field 15 13 = 4 ∧ w.field 6 2 = 0 ∧ w.field 11 7 ≠ 0

end Word

/-! ## Bits that an encoding settles -/

/-- The bits of the pattern are fixed in the encoding, or the pattern is reserved in it. -/
def Encoding.Settles (e : Encoding) (p : Pattern) : Prop := e.fixed.Implies p ∨ p ∈ e.reserved

instance (e : Encoding) (p : Pattern) : Decidable (e.Settles p) :=
  inferInstanceAs (Decidable (_ ∨ _))

theorem Encoding.Settles.matches_iff {e : Encoding} {p : Pattern} {w : BitVec 32}
    (h : e.Settles p) (hw : e.Accepts w) : p.Matches w ↔ e.fixed.Implies p := by
  refine ⟨fun hp => ?_, fun hp => hp.matches hw.1⟩
  rcases h with h | h
  · exact h
  · exact absurd hp (hw.2 p h)

theorem Pattern.matches_field_iff {hi lo n : Nat} (h : AreFields [(hi, lo, n)]) (w : Word) :
    (ofFields [(hi, lo, n)]).Matches w.value ↔ w.field hi lo = n := by
  obtain ⟨hle, -⟩ := h.1 _ List.mem_cons_self
  rw [matches_ofFields_iff h, List.forall_mem_singleton, Word.field, toNat_extractLsb,
    Nat.sub_add_comm hle]

/-! ## Kinds of operations -/

namespace Mnemonic

open CompressedOp (firstIs secondIsZero)

/-- The number in bits 15 to 13 of the half words of the operation. -/
def funct3 (m : Mnemonic) : Nat := (m.encoding.fixed.value.extractLsb 15 13).toNat

theorem implies_funct3 : ∀ m : Mnemonic, m.encoding.opcode.isCompressed →
    m.encoding.fixed.Implies (.ofFields [(15, 13, m.funct3)]) := by
  decide +kernel

/-- The kinds of the table by opcode and `funct3`. -/
theorem kind_iff : ∀ m : Mnemonic,
    (m.kind = .load ↔ m.encoding.opcode = .load ∨
      m.encoding.opcode ∈ [.quadrant 0, .quadrant 2] ∧ m.funct3 ∈ [1, 2, 3]) ∧
    (m.kind = .store ↔ m.encoding.opcode = .store ∨
      m.encoding.opcode ∈ [.quadrant 0, .quadrant 2] ∧ m.funct3 ∈ [5, 6, 7]) ∧
    (m.kind = .branch ↔ m.encoding.opcode = .branch ∨
      m.encoding.opcode = .quadrant 1 ∧ m.funct3 ∈ [6, 7]) ∧
    (m.kind = .jumpPcRelative ↔ m.encoding.opcode = .jal ∨
      m.encoding.opcode = .quadrant 1 ∧ m.funct3 ∈ [1, 5]) := by
  decide +kernel

/-- Jumps to registers by the fixed bits of their half words as well. -/
theorem kind_jump_iff : ∀ m : Mnemonic, m.kind = .jump ↔ m.encoding.opcode = .jalr ∨
    m.encoding.opcode = .quadrant 2 ∧ m.funct3 = 4 ∧ m.encoding.fixed.Implies secondIsZero ∧
      ¬ m.encoding.fixed.Implies (firstIs 0) := by
  decide +kernel

/-- The five operations that share `funct3` with the jumps to registers. -/
theorem settles_registers : ∀ m : Mnemonic, m.encoding.opcode = .quadrant 2 → m.funct3 = 4 →
    m.encoding.Settles secondIsZero ∧
      (m.encoding.fixed.Implies secondIsZero → m.encoding.Settles (firstIs 0)) := by
  decide +kernel

theorem kind_of_vector : ∀ m : Mnemonic, m.encoding.opcode ∈ Extension.vector.opcodes →
    m.kind = .other := by
  decide +kernel

/-! ## Kinds of the operations of words -/

variable {m : Mnemonic} {w : Word}

theorem field_of_fits (h : m.Fits w) (hw : w.opcode.isCompressed) : w.field 15 13 = m.funct3 := by
  have hlt : m.funct3 < 8 := (m.encoding.fixed.value.extractLsb 15 13).isLt
  have hfields : Pattern.AreFields [(15, 13, m.funct3)] := by
    simpa [Pattern.AreFields] using hlt
  rw [← Pattern.matches_field_iff hfields]
  exact (m.implies_funct3 (h.1 ▸ hw)).matches h.2.1

theorem kind_iff_of_fits (h : m.Fits w) :
    (m.kind = .load ↔ w.IsLoad) ∧ (m.kind = .store ↔ w.IsStore) ∧
      (m.kind = .branch ↔ w.IsBranch) ∧ (m.kind = .jumpPcRelative ↔ w.IsJumpPcRelative) := by
  have hkind := m.kind_iff
  rw [h.1] at hkind
  cases w with
  | half b =>
    rw [← field_of_fits h rfl] at hkind
    exact hkind
  | full b =>
    -- the opcode is no quadrant
    simpa [Word.IsLoad, Word.IsStore, Word.IsBranch, Word.IsJumpPcRelative, Word.opcode] using hkind

theorem kind_jump_iff_of_fits (h : m.Fits w) : m.kind = .jump ↔ w.IsRegisterJump := by
  rw [kind_jump_iff, Word.IsRegisterJump, h.1]
  refine or_congr_right (and_congr_right fun hq => ?_)
  rw [field_of_fits h (by rw [hq]; rfl)]
  refine and_congr_right fun hf => ?_
  obtain ⟨hsecond, hfirst⟩ := m.settles_registers (h.1.trans hq) hf
  have hzero_iff : w.field 6 2 = 0 ↔ m.encoding.fixed.Implies secondIsZero :=
    (Pattern.matches_field_iff (by decide) w).symm.trans (hsecond.matches_iff h.2)
  rw [hzero_iff]
  refine and_congr_right fun hzero => not_congr ?_
  exact ((hfirst hzero).matches_iff h.2).symm.trans (Pattern.matches_field_iff (by decide) w)

end Mnemonic

/-! ## Decoded instructions -/

namespace Instruction

variable (i : Instruction)

theorem isLoad_iff : i.isLoad ↔ i.mnemonic.kind = .load := beq_iff_eq

theorem isStore_iff : i.isStore ↔ i.mnemonic.kind = .store := beq_iff_eq

theorem isBranch_iff : i.isBranch ↔ i.mnemonic.kind = .branch := beq_iff_eq

theorem isJumpPcRelative_iff : i.isJumpPcRelative ↔ i.mnemonic.kind = .jumpPcRelative := beq_iff_eq

theorem isJump_iff : i.isJump ↔ i.isJumpPcRelative ∨ i.mnemonic.kind = .jump := by
  rw [isJump, Bool.or_eq_true, beq_iff_eq, or_comm]

/-- No instruction is of two kinds. -/
theorem count_kinds_le : [i.isBranch, i.isJump, i.isLoad, i.isStore].count true ≤ 1 := by
  unfold isJump isJumpPcRelative isBranch isLoad isStore
  cases i.mnemonic.kind <;> decide

theorem count_kinds_eq_zero (h : i.mnemonic.kind = .other) :
    [i.isBranch, i.isJump, i.isLoad, i.isStore].count true = 0 := by
  unfold isJump isJumpPcRelative isBranch isLoad isStore
  rw [h]
  rfl

end Instruction

/-- A decoded instruction is of the kind that the bits of its word say: a load or store, a branch, a
jump by a distance or to the address in a register. It is of one of these kinds at most, and of none
if the word is one of the vector extension. -/
theorem Isa.decode_classifies {s : Isa} {w : Word} {i : Instruction} (h : s.decode w = .ok i) :
    (i.isLoad ↔ w.IsLoad) ∧ (i.isStore ↔ w.IsStore) ∧ (i.isBranch ↔ w.IsBranch) ∧
    (i.isJumpPcRelative ↔ w.IsJumpPcRelative) ∧
    (i.isJump ↔ w.IsJumpPcRelative ∨ w.IsRegisterJump) ∧
    (i.isMemAccess ↔ w.IsLoad ∨ w.IsStore) ∧
    (i.isControlTransfer ↔ (w.IsJumpPcRelative ∨ w.IsRegisterJump) ∨ w.IsBranch) ∧
    (i.isControlTransferPcRelative ↔ w.IsJumpPcRelative ∨ w.IsBranch) ∧
    [i.isBranch, i.isJump, i.isLoad, i.isStore].count true ≤ 1 ∧
    (w.opcode ∈ Extension.vector.opcodes →
      [i.isBranch, i.isJump, i.isLoad, i.isStore].count true = 0) := by
  obtain ⟨m, -, hm, rfl⟩ := decode_eq_ok_iff.1 h
  obtain ⟨hload, hstore, hbranch, hrelative⟩ := Mnemonic.kind_iff_of_fits hm
  have hload : (m.instruction w).isLoad ↔ w.IsLoad := (Instruction.isLoad_iff _).trans hload
  have hstore : (m.instruction w).isStore ↔ w.IsStore := (Instruction.isStore_iff _).trans hstore
  have hbranch : (m.instruction w).isBranch ↔ w.IsBranch :=
    (Instruction.isBranch_iff _).trans hbranch
  have hrelative : (m.instruction w).isJumpPcRelative ↔ w.IsJumpPcRelative :=
    (Instruction.isJumpPcRelative_iff _).trans hrelative
  have hjump : (m.instruction w).isJump ↔ w.IsJumpPcRelative ∨ w.IsRegisterJump :=
    (Instruction.isJump_iff _).trans (or_congr hrelative (Mnemonic.kind_jump_iff_of_fits hm))
  refine ⟨hload, hstore, hbranch, hrelative, hjump, ?_, ?_, ?_, Instruction.count_kinds_le _,
    fun hw => Instruction.count_kinds_eq_zero _ (m.kind_of_vector (hm.1 ▸ hw))⟩
  · rw [Instruction.isMemAccess, Bool.or_eq_true, hload, hstore]
  · rw [Instruction.isControlTransfer, Bool.or_eq_true, hjump, hbranch]
  · rw [Instruction.isControlTransferPcRelative, Bool.or_eq_true, hrelative, hbranch]

/-- `c.jr ra` jumps, and `c.mv ra,sp` with the same `funct3` does not. -/
theorem Isa.decode_classifies_registers :
    ∃ i j, rv32imc.decode (.half 0x8082) = .ok i ∧ rv32imc.decode (.half 0x808A) = .ok j ∧
      (Word.half 0x8082).IsRegisterJump ∧ i.isJump ∧
      (Word.half 0x8082).field 15 13 = (Word.half 0x808A).field 15 13 ∧ ¬ j.isJump := by
  have hi : rv32imc.decode (.half 0x8082) =
      .ok (Mnemonic.instruction (.compressed .jr) (.half 0x8082)) := by rfl
  have hj : rv32imc.decode (.half 0x808A) =
      .ok (Mnemonic.instruction (.compressed .mv) (.half 0x808A)) := by rfl
  have hword : (Word.half 0x8082).IsRegisterJump := by
    unfold Word.IsRegisterJump
    decide
  have hword' : ¬ ((Word.half 0x808A).IsJumpPcRelative ∨ (Word.half 0x808A).IsRegisterJump) := by
    unfold Word.IsRegisterJump Word.IsJumpPcRelative
    decide
  obtain ⟨-, -, -, -, hjump, -⟩ := decode_classifies hi
  obtain ⟨-, -, -, -, hjump', -⟩ := decode_classifies hj
  exact ⟨_, _, hi, hj, hword, hjump.2 (.inr hword), rfl, mt hjump'.1 hword'⟩

end Rv32
