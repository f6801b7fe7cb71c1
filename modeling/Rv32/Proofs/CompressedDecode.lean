import Rv32.Proofs.CompressedWords

/-!
# Decoding the compressed set

* `Half.Reserved` : the half words that RVC gives no meaning on RV32;
* `CompressedOp.not_reserved`, `CompressedOp.exists_yields` : the half words with an operation are
  the other ones;
* `Isa.decode_compressed_words` : decoding finds the operation and the operands of every assembled
  half word, and rejects the reserved ones and no others.
-/

namespace Rv32

/-! ## Reserved half words -/

/-- The half words that RVC leaves without a meaning on RV32, outside of quadrant 3. -/
def Half.Reserved (w : BitVec 16) : Prop :=
  let quadrant := w.extractLsb 1 0
  let funct3 := w.extractLsb 15 13
  (quadrant = 0b00 ∧ funct3 = 0b000 ∧ w.extractLsb 12 5 = 0) ∨
  (quadrant = 0b00 ∧ funct3 = 0b100) ∨
  (quadrant = 0b01 ∧ funct3 = 0b011 ∧ w.extractLsb 12 12 = 0 ∧ w.extractLsb 6 2 = 0) ∨
  (quadrant = 0b01 ∧ funct3 = 0b100 ∧ w.extractLsb 11 10 ≠ 0b10 ∧ w.extractLsb 12 12 = 1) ∨
  (quadrant = 0b10 ∧ funct3 = 0b000 ∧ w.extractLsb 12 12 = 1) ∨
  (quadrant = 0b10 ∧ funct3 = 0b010 ∧ w.extractLsb 11 7 = 0) ∨
  (quadrant = 0b10 ∧ funct3 = 0b100 ∧ w.extractLsb 12 12 = 0 ∧ w.extractLsb 11 7 = 0 ∧
    w.extractLsb 6 2 = 0)

theorem Half.reserved_iff (w : BitVec 16) : Reserved w ↔
    (w.toNat % 4 = 0 ∧ w.toNat / 8192 % 8 = 0 ∧ w.toNat / 32 % 256 = 0) ∨
    (w.toNat % 4 = 0 ∧ w.toNat / 8192 % 8 = 4) ∨
    (w.toNat % 4 = 1 ∧ w.toNat / 8192 % 8 = 3 ∧ w.toNat / 4096 % 2 = 0 ∧ w.toNat / 4 % 32 = 0) ∨
    (w.toNat % 4 = 1 ∧ w.toNat / 8192 % 8 = 4 ∧ w.toNat / 1024 % 4 ≠ 2 ∧ w.toNat / 4096 % 2 = 1) ∨
    (w.toNat % 4 = 2 ∧ w.toNat / 8192 % 8 = 0 ∧ w.toNat / 4096 % 2 = 1) ∨
    (w.toNat % 4 = 2 ∧ w.toNat / 8192 % 8 = 2 ∧ w.toNat / 128 % 32 = 0) ∨
    (w.toNat % 4 = 2 ∧ w.toNat / 8192 % 8 = 4 ∧ w.toNat / 4096 % 2 = 0 ∧ w.toNat / 128 % 32 = 0 ∧
      w.toNat / 4 % 32 = 0) := by
  simp only [Reserved, ← BitVec.toNat_inj, toNat_extractLsb, ne_eq, BitVec.reduceToNat,
    Nat.reducePow, Nat.reduceAdd, Nat.reduceSub, Nat.div_one]

/-- Some operation has the half word. -/
def Half.HasOperation (w : BitVec 16) : Prop :=
  ∃ (op : CompressedOp) (fmt : Format) (o : Operands), op.shape.encoding.Yields (.half w) fmt o

namespace CompressedOp

open CompressedShape

variable {fmt : Format} {o : Operands} {w : BitVec 16}

theorem not_reserved {op : CompressedOp} (h : op.shape.encoding.Yields (.half w) fmt o) :
    ¬ Half.Reserved w := by
  rw [Half.reserved_iff]
  cases op with
  | addi4spn =>
    obtain ⟨hq, hf3, hne, -⟩ := yields_addi4spn_iff.1 h
    simp [hq, hf3, hne]
  | fld | lw | flw =>
    obtain ⟨hq, hf3, -⟩ := yields_load_iff.1 h
    simp [hq, hf3]
  | fsd | sw | fsw =>
    obtain ⟨hq, hf3, -⟩ := yields_store_iff.1 h
    simp [hq, hf3]
  | nop =>
    obtain ⟨hq, ⟨hf3, -⟩, -⟩ := yields_nop_iff.1 h
    simp [hq, hf3]
  | addi =>
    obtain ⟨hq, hf3, -⟩ := yields_addi_iff.1 h
    simp [hq, hf3]
  | jal =>
    obtain ⟨hq, hf3, -⟩ := yields_jal_iff.1 h
    simp [hq, hf3]
  | li =>
    obtain ⟨hq, hf3, -⟩ := yields_li_iff.1 h
    simp [hq, hf3]
  | addi16sp =>
    obtain ⟨hq, ⟨hf3, -⟩, hne, -⟩ := yields_addi16sp_iff.1 h
    simpa [hq, hf3] using hne
  | lui =>
    obtain ⟨hq, hf3, ⟨-, hne⟩, -⟩ := yields_lui_iff.1 h
    simpa [hq, hf3] using hne
  | srli | srai =>
    obtain ⟨hq, ⟨hf3, hhigh, -⟩, -⟩ := yields_shiftRight_iff.1 h
    simp [hq, hf3, hhigh]
  | andi =>
    obtain ⟨hq, ⟨hf3, hf2⟩, -⟩ := yields_andi_iff.1 h
    simp [hq, hf3, hf2]
  | sub | xor | or | and =>
    obtain ⟨hq, ⟨hf3, hhigh, -⟩, -⟩ := yields_arithmetic_iff.1 h
    simp [hq, hf3, hhigh]
  | j =>
    obtain ⟨hq, hf3, -⟩ := yields_j_iff.1 h
    simp [hq, hf3]
  | beqz | bnez =>
    obtain ⟨hq, hf3, -⟩ := yields_branch_iff.1 h
    simp [hq, hf3]
  | slli =>
    obtain ⟨hq, ⟨hf3, hhigh⟩, -⟩ := yields_slli_iff.1 h
    simp [hq, hf3, hhigh]
  | lwsp =>
    obtain ⟨hq, hf3, hne, -⟩ := yields_loadStack_iff.1 h
    simp [hq, hf3, hne rfl]
  | fldsp | flwsp =>
    obtain ⟨hq, hf3, -⟩ := yields_loadStack_iff.1 h
    simp [hq, hf3]
  | jr =>
    obtain ⟨hq, ⟨hf4, -⟩, hne, -⟩ := yields_jr_iff.1 h
    have hf3 : w.toNat / 8192 % 8 = 4 := by omega
    simp [hq, hf3, hne]
  | mv =>
    obtain ⟨hq, hf4, hne, -⟩ := yields_mv_iff.1 h
    have hf3 : w.toNat / 8192 % 8 = 4 := by omega
    simp [hq, hf3, hne]
  | ebreak =>
    obtain ⟨hq, ⟨hf4, -⟩, -⟩ := yields_ebreak_iff.1 h
    have hf3 : w.toNat / 8192 % 8 = 4 ∧ w.toNat / 4096 % 2 = 1 := by omega
    simp [hq, hf3]
  | jalr =>
    obtain ⟨hq, ⟨hf4, -⟩, hne, -⟩ := yields_jalr_iff.1 h
    have hf3 : w.toNat / 8192 % 8 = 4 := by omega
    simp [hq, hf3, hne]
  | add =>
    obtain ⟨hq, hf4, hne, -⟩ := yields_add_iff.1 h
    have hf3 : w.toNat / 8192 % 8 = 4 := by omega
    simp [hq, hf3, hne]
  | fsdsp | swsp | fswsp =>
    obtain ⟨hq, hf3, -⟩ := yields_storeStack_iff.1 h
    simp [hq, hf3]

/-- Quadrant 0 has an operation for each `funct3` but one. -/
theorem exists_yields_quadrant_zero (hq : w.toNat % 4 = 0) (h : ¬ Half.Reserved w) :
    Half.HasOperation w := by
  rw [Half.reserved_iff] at h
  have hlt : w.toNat / 8192 % 8 < 8 := Nat.mod_lt _ (by decide)
  interval_cases hf3 : w.toNat / 8192 % 8
  · have hne : w.toNat / 32 % 256 ≠ 0 := by simpa [hq] using h
    exact ⟨addi4spn, _, _, yields_addi4spn_iff.2 ⟨hq, hf3, hne, rfl, rfl⟩⟩
  · exact ⟨fld, _, _, yields_load_iff.2 ⟨hq, hf3, rfl, rfl⟩⟩
  · exact ⟨lw, _, _, yields_load_iff.2 ⟨hq, hf3, rfl, rfl⟩⟩
  · exact ⟨flw, _, _, yields_load_iff.2 ⟨hq, hf3, rfl, rfl⟩⟩
  · simp [hq] at h
  · exact ⟨fsd, _, _, yields_store_iff.2 ⟨hq, hf3, rfl, rfl⟩⟩
  · exact ⟨sw, _, _, yields_store_iff.2 ⟨hq, hf3, rfl, rfl⟩⟩
  · exact ⟨fsw, _, _, yields_store_iff.2 ⟨hq, hf3, rfl, rfl⟩⟩

/-- Within `funct3 = 100` of quadrant 1 the number in bits 11 and 10 selects the operation, and for
operations on two registers the one in bits 6 and 5. -/
theorem exists_yields_misc (hq : w.toNat % 4 = 1) (hf3 : w.toNat / 8192 % 8 = 4)
    (h : ¬ Half.Reserved w) : Half.HasOperation w := by
  rw [Half.reserved_iff] at h
  have hhigh : w.toNat / 1024 % 4 ≠ 2 → w.toNat / 4096 % 2 = 0 := by simpa [hq, hf3] using h
  have hlt : w.toNat / 1024 % 4 < 4 := Nat.mod_lt _ (by decide)
  have hlt' : w.toNat / 32 % 4 < 4 := Nat.mod_lt _ (by decide)
  interval_cases hmisc : w.toNat / 1024 % 4
  · have hhigh := hhigh (by decide)
    exact ⟨srli, _, _, yields_shiftRight_iff.2 ⟨hq, ⟨hf3, hhigh, hmisc⟩, rfl, rfl⟩⟩
  · have hhigh := hhigh (by decide)
    exact ⟨srai, _, _, yields_shiftRight_iff.2 ⟨hq, ⟨hf3, hhigh, hmisc⟩, rfl, rfl⟩⟩
  · exact ⟨andi, _, _, yields_andi_iff.2 ⟨hq, ⟨hf3, hmisc⟩, rfl, rfl⟩⟩
  · have hhigh := hhigh (by decide)
    interval_cases hf2 : w.toNat / 32 % 4
    · exact ⟨sub, _, _, yields_arithmetic_iff.2 ⟨hq, ⟨hf3, hhigh, hmisc, hf2⟩, rfl, rfl⟩⟩
    · exact ⟨xor, _, _, yields_arithmetic_iff.2 ⟨hq, ⟨hf3, hhigh, hmisc, hf2⟩, rfl, rfl⟩⟩
    · exact ⟨or, _, _, yields_arithmetic_iff.2 ⟨hq, ⟨hf3, hhigh, hmisc, hf2⟩, rfl, rfl⟩⟩
    · exact ⟨and, _, _, yields_arithmetic_iff.2 ⟨hq, ⟨hf3, hhigh, hmisc, hf2⟩, rfl, rfl⟩⟩

theorem exists_yields_quadrant_one (hq : w.toNat % 4 = 1) (h : ¬ Half.Reserved w) :
    Half.HasOperation w := by
  have hres := h
  rw [Half.reserved_iff] at hres
  have hlt : w.toNat / 8192 % 8 < 8 := Nat.mod_lt _ (by decide)
  interval_cases hf3 : w.toNat / 8192 % 8
  · by_cases hfirst : w.toNat / 128 % 32 = 0
    · exact ⟨nop, _, _, yields_nop_iff.2 ⟨hq, ⟨hf3, hfirst⟩, rfl, rfl⟩⟩
    · exact ⟨addi, _, _, yields_addi_iff.2 ⟨hq, hf3, hfirst, rfl, rfl⟩⟩
  · exact ⟨jal, _, _, yields_jal_iff.2 ⟨hq, hf3, rfl, rfl⟩⟩
  · exact ⟨li, _, _, yields_li_iff.2 ⟨hq, hf3, rfl, rfl⟩⟩
  · have hne : ¬ (w.toNat / 4096 % 2 = 0 ∧ w.toNat / 4 % 32 = 0) := by simpa [hq] using hres
    by_cases hfirst : w.toNat / 128 % 32 = 2
    · exact ⟨addi16sp, _, _, yields_addi16sp_iff.2 ⟨hq, ⟨hf3, hfirst⟩, hne, rfl, rfl⟩⟩
    · exact ⟨lui, _, _, yields_lui_iff.2 ⟨hq, hf3, ⟨hfirst, hne⟩, rfl, rfl⟩⟩
  · exact exists_yields_misc hq hf3 h
  · exact ⟨j, _, _, yields_j_iff.2 ⟨hq, hf3, rfl, rfl⟩⟩
  · exact ⟨beqz, _, _, yields_branch_iff.2 ⟨hq, hf3, rfl, rfl⟩⟩
  · exact ⟨bnez, _, _, yields_branch_iff.2 ⟨hq, hf3, rfl, rfl⟩⟩

/-- Within `funct3 = 100` of quadrant 2 bit 12 and the registers that are zero select the
operation. -/
theorem exists_yields_registers (hq : w.toNat % 4 = 2) (hf3 : w.toNat / 8192 % 8 = 4)
    (h : ¬ Half.Reserved w) : Half.HasOperation w := by
  have hf4 : w.toNat / 4096 % 16 = 0b1000 ∧ w.toNat / 4096 % 2 = 0 ∨
      w.toNat / 4096 % 16 = 0b1001 := by omega
  rw [Half.reserved_iff] at h
  by_cases hsecond : w.toNat / 4 % 32 = 0
  · rcases hf4 with ⟨hf4, hhigh⟩ | hf4
    · have hfirst : w.toNat / 128 % 32 ≠ 0 := by simpa [hq, hf3, hhigh, hsecond] using h
      exact ⟨jr, _, _, yields_jr_iff.2 ⟨hq, ⟨hf4, hsecond⟩, hfirst, rfl, rfl⟩⟩
    · by_cases hfirst : w.toNat / 128 % 32 = 0
      · exact ⟨ebreak, _, _, yields_ebreak_iff.2 ⟨hq, ⟨hf4, hfirst, hsecond⟩, rfl, rfl⟩⟩
      · exact ⟨jalr, _, _, yields_jalr_iff.2 ⟨hq, ⟨hf4, hsecond⟩, hfirst, rfl, rfl⟩⟩
  · rcases hf4 with ⟨hf4, -⟩ | hf4
    · exact ⟨mv, _, _, yields_mv_iff.2 ⟨hq, hf4, hsecond, rfl, rfl⟩⟩
    · exact ⟨add, _, _, yields_add_iff.2 ⟨hq, hf4, hsecond, rfl, rfl⟩⟩

theorem exists_yields_quadrant_two (hq : w.toNat % 4 = 2) (h : ¬ Half.Reserved w) :
    Half.HasOperation w := by
  have hres := h
  rw [Half.reserved_iff] at hres
  have hlt : w.toNat / 8192 % 8 < 8 := Nat.mod_lt _ (by decide)
  interval_cases hf3 : w.toNat / 8192 % 8
  · have hhigh : w.toNat / 4096 % 2 = 0 := by simpa [hq] using hres
    exact ⟨slli, _, _, yields_slli_iff.2 ⟨hq, ⟨hf3, hhigh⟩, rfl, rfl⟩⟩
  · exact ⟨fldsp, _, _, yields_loadStack_iff.2 ⟨hq, hf3, nofun, rfl, rfl⟩⟩
  · have hfirst : w.toNat / 128 % 32 ≠ 0 := by simpa [hq] using hres
    exact ⟨lwsp, _, _, yields_loadStack_iff.2 ⟨hq, hf3, fun _ => hfirst, rfl, rfl⟩⟩
  · exact ⟨flwsp, _, _, yields_loadStack_iff.2 ⟨hq, hf3, nofun, rfl, rfl⟩⟩
  · exact exists_yields_registers hq hf3 h
  · exact ⟨fsdsp, _, _, yields_storeStack_iff.2 ⟨hq, hf3, rfl, rfl⟩⟩
  · exact ⟨swsp, _, _, yields_storeStack_iff.2 ⟨hq, hf3, rfl, rfl⟩⟩
  · exact ⟨fswsp, _, _, yields_storeStack_iff.2 ⟨hq, hf3, rfl, rfl⟩⟩

/-- Every half word outside of quadrant 3 is of some operation or reserved. -/
theorem exists_yields (hq : w.toNat % 4 ≠ 3) (h : ¬ Half.Reserved w) :
    Half.HasOperation w := by
  have hcases : w.toNat % 4 = 0 ∨ w.toNat % 4 = 1 ∨ w.toNat % 4 = 2 := by omega
  rcases hcases with hq | hq | hq
  · exact exists_yields_quadrant_zero hq h
  · exact exists_yields_quadrant_one hq h
  · exact exists_yields_quadrant_two hq h

end CompressedOp

/-! ## Decoding -/

/-- Half words are of compressed operations only. -/
theorem Mnemonic.exists_compressed {m : Mnemonic} {w : BitVec 16} {fmt : Format} {o : Operands}
    (h : m.encoding.Yields (.half w) fmt o) : ∃ op, m = .compressed op := by
  have hwidth : ∀ e : Extension, ∀ k ∈ e.opcodes, k.isCompressed → e = .compressed := by
    intro e
    cases e <;> decide
  have hm := hwidth _ _ m.opcode_mem (by rw [h.1]; rfl)
  cases m with
  | compressed op => exact ⟨op, rfl⟩
  | integer op => cases hm
  | multiply op => cases hm
  | vector op => cases hm

/-- Decoding inverts the assembly of RVC. The half words of an operation decode to it, with the
operands that they are assembled from. Outside of quadrant 3, a half word that decodes is one of
these, and the ones that do not decode are the reserved ones. -/
theorem Isa.decode_compressed_words (s : Isa) (hs : s.supports .compressed) :
    (∀ (op : CompressedOp) fmt o w, op.shape.Assembles fmt o w →
      ∃ i, s.decode (.half w) = .ok i ∧ i.mnemonic = .compressed op ∧ i.format = fmt ∧
        i.operands = o ∧ i.word = .half w) ∧
    ∀ w : BitVec 16, w.extractLsb 1 0 ≠ 0b11 →
      (∀ i, s.decode (.half w) = .ok i →
        ∃ op, i.mnemonic = .compressed op ∧ op.shape.Assembles i.format i.operands w) ∧
      ∀ e, s.decode (.half w) = .error e ↔
        Half.Reserved w ∧ e = .unknownEncoding (Word.half w).opcode (.half w) := by
  refine ⟨?_, fun w hquadrant => ⟨?_, ?_⟩⟩
  · intro op fmt o w h
    rw [CompressedShape.assembles_iff, ← CompressedOp.encoding_shape] at h
    exact decode_of_yields hs h
  · intro i h
    have hy := (yields_of_decode h).2
    obtain ⟨op, hop⟩ := Mnemonic.exists_compressed hy
    rw [hop] at hy
    exact ⟨op, hop, (CompressedShape.assembles_iff _).2 (op.encoding_shape ▸ hy)⟩
  · have hq : w.toNat % 4 ≠ 3 := by
      intro h
      apply hquadrant
      apply BitVec.eq_of_toNat_eq
      rw [toNat_extractLsb]
      simpa using h
    by_cases hres : Half.Reserved w
    · have hk : (Word.half w).opcode ∈ Extension.compressed.opcodes := by
        rw [← (Word.opcode_half_eq_iff _ w).2 rfl]
        have : w.toNat % 4 = 0 ∨ w.toNat % 4 = 1 ∨ w.toNat % 4 = 2 := by omega
        rcases this with h | h | h <;> rw [h] <;> decide
      have hnone : s.decode (.half w) =
          .error (.unknownEncoding (Word.half w).opcode (.half w)) := by
        refine decode_eq_unknown hs hk ?_
        intro m fmt o hy
        obtain ⟨op, rfl⟩ := Mnemonic.exists_compressed hy
        exact CompressedOp.not_reserved (op.encoding_shape ▸ hy) hres
      intro e
      rw [hnone, Except.error.injEq, eq_comm, and_iff_right hres]
    · obtain ⟨op, fmt, o, hy⟩ := CompressedOp.exists_yields hq hres
      rw [← op.encoding_shape] at hy
      obtain ⟨i, hi, -⟩ := decode_of_yields hs hy
      intro e
      rw [hi]
      exact ⟨nofun, fun h => absurd h.1 hres⟩

/-- `c.j -2` : eight runs of bits hold the distance. -/
theorem Isa.decode_compressed_jump : rv32imc.supports .compressed ∧
    ∃ i, rv32imc.decode (.half 0xBFFD) = .ok i ∧ i.mnemonic = .compressed .j ∧ i.format = .cj ∧
      i.operands = { imm := [-2] } ∧ i.word = .half 0xBFFD := by
  have hs : rv32imc.supports .compressed := by decide
  have h := CompressedShape.Assembles.j (-2) (by decide) (by decide)
  exact ⟨hs, (decode_compressed_words rv32imc hs).1 .j _ _ _ h⟩

end Rv32
