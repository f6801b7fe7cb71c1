import Rv32.Proofs.VectorFields

/-!
# Decoding the vector set

* `VectorShape.assembles_iff` : the words of a shape are those that its encoding accepts, and the
  operands and the mask are those that it reads;
* `VType.Unsupported` : forms that the opcodes of the vector set leave room for and that are not part
  of it, such as segments, indexed modes and floating point;
* `Isa.decode_vector_words` : decoding finds the operation, the operands and the mask of every
  assembled word, and rejects every other word with an opcode of the vector set.
-/

namespace Rv32

/-! ## Each shape is read back by its encoding -/

namespace VectorShape

variable {a : Addressing} {k : OperandKind} {width funct3 : BitVec 3} {funct6 : BitVec 6}
  {fmt : Format} {o : Operands} {w : BitVec 32}

theorem Assembles.of_eq {sh : VectorShape} {v : BitVec 32} (h : sh.Assembles fmt o v)
    (hv : v = w) : sh.Assembles fmt o w := hv ▸ h

theorem assembles_vsetvli_iff : vsetvli.Assembles fmt o w ↔
    vsetvli.encoding.Yields (.full w) fmt o := by
  rw [Encoding.yields_full_iff 0b1010111 w rfl rfl]
  have hvtype : Immediate.vtype.read w = (w.extractLsb' 20 11).toNat :=
    Immediate.read_unsigned w rfl (by decide)
  have hread : vsetvli.encoding.read w =
      { dest := [.x (w.extractLsb' 7 5)], src := [.x (w.extractLsb' 15 5)]
        imm := [(w.extractLsb' 20 11).toNat] } := by
    simp [encoding, VectorOp.form, Encoding.read, Masking.read, hvtype]
  rw [hread]
  constructor
  · intro h
    cases h with
    | vsetvli rd rs1 vtype =>
      generalize hw : VType.vsetvli vtype rs1 rd = w
      obtain ⟨hhigh, rfl, rfl, hf3, rfl, hop⟩ := VType.vsetvli_eq_iff.1 hw
      exact ⟨hop, (Pattern.matches_vsetvli_iff w).2 ⟨hhigh, hf3⟩, rfl, rfl⟩
  · rintro ⟨hop, hfixed, rfl, rfl⟩
    obtain ⟨hhigh, hf3⟩ := (Pattern.matches_vsetvli_iff w).1 hfixed
    have hw := VType.vsetvli_eq_iff.2 ⟨hhigh, rfl, rfl, hf3, rfl, hop⟩
    exact (Assembles.vsetvli _ _ _).of_eq hw

theorem assembles_vsetivli_iff : vsetivli.Assembles fmt o w ↔
    vsetivli.encoding.Yields (.full w) fmt o := by
  rw [Encoding.yields_full_iff 0b1010111 w rfl rfl]
  have hvtype : Immediate.vtypeShort.read w = (w.extractLsb' 20 10).toNat :=
    Immediate.read_unsigned w rfl (by decide)
  have hread : vsetivli.encoding.read w =
      { dest := [.x (w.extractLsb' 7 5)]
        imm := [(w.extractLsb' 15 5).toNat, (w.extractLsb' 20 10).toNat] } := by
    simp [encoding, VectorOp.form, Encoding.read, Masking.read, Immediate.read_uimm, hvtype]
  rw [hread]
  constructor
  · intro h
    cases h with
    | vsetivli rd uimm vtype =>
      generalize hw : VType.vsetivli vtype uimm rd = w
      obtain ⟨hhigh, rfl, rfl, hf3, rfl, hop⟩ := VType.vsetivli_eq_iff.1 hw
      exact ⟨hop, (Pattern.matches_vsetivli_iff w).2 ⟨hhigh, hf3⟩, rfl, rfl⟩
  · rintro ⟨hop, hfixed, rfl, rfl⟩
    obtain ⟨hhigh, hf3⟩ := (Pattern.matches_vsetivli_iff w).1 hfixed
    have hw := VType.vsetivli_eq_iff.2 ⟨hhigh, rfl, rfl, hf3, rfl, hop⟩
    exact (Assembles.vsetivli _ _ _).of_eq hw

theorem assembles_vsetvl_iff : vsetvl.Assembles fmt o w ↔
    vsetvl.encoding.Yields (.full w) fmt o := by
  rw [Encoding.yields_full_iff 0b1010111 w rfl rfl]
  have hread : vsetvl.encoding.read w =
      { dest := [.x (w.extractLsb' 7 5)]
        src := [.x (w.extractLsb' 15 5), .x (w.extractLsb' 20 5)] } := by
    simp [encoding, VectorOp.form, Encoding.read, Masking.read]
  rw [hread]
  constructor
  · intro h
    cases h with
    | vsetvl rd rs1 rs2 =>
      generalize hw : VType.vsetvl rs2 rs1 rd = w
      obtain ⟨hhigh, rfl, rfl, hf3, rfl, hop⟩ := VType.vsetvl_eq_iff.1 hw
      exact ⟨hop, (Pattern.matches_vsetvl_iff w).2 ⟨hhigh, hf3⟩, rfl, rfl⟩
  · rintro ⟨hop, hfixed, rfl, rfl⟩
    obtain ⟨hhigh, hf3⟩ := (Pattern.matches_vsetvl_iff w).1 hfixed
    have hw := VType.vsetvl_eq_iff.2 ⟨hhigh, rfl, rfl, hf3, rfl, hop⟩
    exact (Assembles.vsetvl _ _ _).of_eq hw

theorem assembles_load_iff : (load a width).Assembles fmt o w ↔
    (load a width).encoding.Yields (.full w) fmt o := by
  rw [Encoding.yields_full_iff 0b0000111 w rfl rfl]
  constructor
  · intro h
    cases h with
    | load _ _ vd rs1 stride vm =>
      generalize hw : VType.memory a.mop vm stride.bits rs1 width vd 0b0000111 = w
      obtain ⟨hnf, hmew, hmop, rfl, hbits, rfl, hwidth, rfl, hop⟩ := VType.memory_eq_iff.1 hw
      have hfixed := Stride.matches_pattern_iff.2 ⟨hnf, hmew, hmop, ⟨stride, hbits⟩, hwidth⟩
      refine ⟨hop, hfixed, rfl, ?_⟩
      simp [encoding, Encoding.read, Masking.read_chosen, Stride.eq_read hbits]
  · rintro ⟨hop, hfixed, rfl, rfl⟩
    obtain ⟨hnf, hmew, hmop, ⟨stride, hbits⟩, hwidth⟩ := Stride.matches_pattern_iff.1 hfixed
    have hw := VType.memory_eq_iff.2 ⟨hnf, hmew, hmop, rfl, hbits, rfl, hwidth, rfl, hop⟩
    have h := (Assembles.load a width _ _ stride _).of_eq hw
    simpa [encoding, Encoding.read, Masking.read_chosen, Stride.eq_read hbits] using h

theorem assembles_store_iff : (store a width).Assembles fmt o w ↔
    (store a width).encoding.Yields (.full w) fmt o := by
  rw [Encoding.yields_full_iff 0b0100111 w rfl rfl]
  constructor
  · intro h
    cases h with
    | store _ _ vs3 rs1 stride vm =>
      generalize hw : VType.memory a.mop vm stride.bits rs1 width vs3 0b0100111 = w
      obtain ⟨hnf, hmew, hmop, rfl, hbits, rfl, hwidth, rfl, hop⟩ := VType.memory_eq_iff.1 hw
      have hfixed := Stride.matches_pattern_iff.2 ⟨hnf, hmew, hmop, ⟨stride, hbits⟩, hwidth⟩
      refine ⟨hop, hfixed, rfl, ?_⟩
      simp [encoding, Encoding.read, Masking.read_chosen, Stride.eq_read hbits]
  · rintro ⟨hop, hfixed, rfl, rfl⟩
    obtain ⟨hnf, hmew, hmop, ⟨stride, hbits⟩, hwidth⟩ := Stride.matches_pattern_iff.1 hfixed
    have hw := VType.memory_eq_iff.2 ⟨hnf, hmew, hmop, rfl, hbits, rfl, hwidth, rfl, hop⟩
    have h := (Assembles.store a width _ _ stride _).of_eq hw
    simpa [encoding, Encoding.read, Masking.read_chosen, Stride.eq_read hbits] using h

theorem assembles_arith_iff : (arith funct6 funct3 k).Assembles fmt o w ↔
    (arith funct6 funct3 k).encoding.Yields (.full w) fmt o := by
  rw [Encoding.yields_full_iff 0b1010111 w rfl rfl]
  constructor
  · intro h
    cases h with
    | arith _ _ _ vd vs2 operand vm =>
      generalize hw : VType.arith funct6 vm vs2 operand.bits funct3 vd = w
      obtain ⟨hf6, rfl, rfl, hbits, hf3, rfl, hop⟩ := VType.arith_eq_iff.1 hw
      obtain ⟨hsrc, himm⟩ := VectorOperand.eq_read hbits
      refine ⟨hop, (Pattern.matches_funct6_iff funct3 funct6 w).2 ⟨hf6, hf3⟩, rfl, ?_⟩
      simp [encoding, VectorOp.arith, Encoding.read, Masking.read_chosen, hsrc, himm]
  · rintro ⟨hop, hfixed, rfl, rfl⟩
    obtain ⟨hf6, hf3⟩ := (Pattern.matches_funct6_iff funct3 funct6 w).1 hfixed
    obtain ⟨operand, hbits⟩ := VectorOperand.exists_bits k w
    obtain ⟨hsrc, himm⟩ := VectorOperand.eq_read hbits
    have hw := VType.arith_eq_iff.2 ⟨hf6, rfl, rfl, hbits, hf3, rfl, hop⟩
    have h := (Assembles.arith funct6 funct3 k _ _ operand _).of_eq hw
    simpa [encoding, VectorOp.arith, Encoding.read, Masking.read_chosen, hsrc, himm] using h

theorem assembles_merge_iff : (merge funct3 k).Assembles fmt o w ↔
    (merge funct3 k).encoding.Yields (.full w) fmt o := by
  rw [Encoding.yields_full_iff 0b1010111 w rfl rfl]
  constructor
  · intro h
    cases h with
    | merge _ _ vd vs2 operand =>
      generalize hw : VType.arith 0b010111 0 vs2 operand.bits funct3 vd = w
      obtain ⟨hf6, hvm, rfl, hbits, hf3, rfl, hop⟩ := VType.arith_eq_iff.1 hw
      obtain ⟨hsrc, himm⟩ := VectorOperand.eq_read hbits
      refine ⟨hop, (Pattern.matches_merge_iff funct3 w).2 ⟨hf6, hvm, hf3⟩, rfl, ?_⟩
      simp [encoding, VectorOp.merge, Encoding.read, Masking.read, hsrc, himm]
  · rintro ⟨hop, hfixed, rfl, rfl⟩
    obtain ⟨hf6, hvm, hf3⟩ := (Pattern.matches_merge_iff funct3 w).1 hfixed
    obtain ⟨operand, hbits⟩ := VectorOperand.exists_bits k w
    obtain ⟨hsrc, himm⟩ := VectorOperand.eq_read hbits
    have hw := VType.arith_eq_iff.2 ⟨hf6, hvm, rfl, hbits, hf3, rfl, hop⟩
    have h := (Assembles.merge funct3 k _ _ operand).of_eq hw
    simpa [encoding, VectorOp.merge, Encoding.read, Masking.read, hsrc, himm] using h

theorem assembles_move_iff : (move funct3 k).Assembles fmt o w ↔
    (move funct3 k).encoding.Yields (.full w) fmt o := by
  rw [Encoding.yields_full_iff 0b1010111 w rfl rfl]
  constructor
  · intro h
    cases h with
    | move _ _ vd operand =>
      generalize hw : VType.arith 0b010111 1 0 operand.bits funct3 vd = w
      obtain ⟨hf6, hvm, hsecond, hbits, hf3, rfl, hop⟩ := VType.arith_eq_iff.1 hw
      obtain ⟨hsrc, himm⟩ := VectorOperand.eq_read hbits
      refine ⟨hop, (Pattern.matches_move_iff funct3 w).2 ⟨hf6, hvm, hsecond, hf3⟩, rfl, ?_⟩
      simp [encoding, VectorOp.move, Encoding.read, Masking.read, hsrc, himm]
  · rintro ⟨hop, hfixed, rfl, rfl⟩
    obtain ⟨hf6, hvm, hsecond, hf3⟩ := (Pattern.matches_move_iff funct3 w).1 hfixed
    obtain ⟨operand, hbits⟩ := VectorOperand.exists_bits k w
    obtain ⟨hsrc, himm⟩ := VectorOperand.eq_read hbits
    have hw := VType.arith_eq_iff.2 ⟨hf6, hvm, hsecond, hbits, hf3, rfl, hop⟩
    have h := (Assembles.move funct3 k _ operand).of_eq hw
    simpa [encoding, VectorOp.move, Encoding.read, Masking.read, hsrc, himm] using h

/-- The words of a shape are those that its encoding accepts, and what is read from each is what it
was assembled from. -/
theorem assembles_iff (sh : VectorShape) :
    sh.Assembles fmt o w ↔ sh.encoding.Yields (.full w) fmt o := by
  cases sh with
  | vsetvli => exact assembles_vsetvli_iff
  | vsetivli => exact assembles_vsetivli_iff
  | vsetvl => exact assembles_vsetvl_iff
  | load _ _ => exact assembles_load_iff
  | store _ _ => exact assembles_store_iff
  | arith _ _ _ => exact assembles_arith_iff
  | merge _ _ => exact assembles_merge_iff
  | move _ _ => exact assembles_move_iff

end VectorShape

/-! ## Unsupported forms -/

/-- Words with an opcode of the vector set that are none of its words: moves with a second vector,
operands in floating point registers, configurations with a stray bit; and in memory operations
segments, extended widths, indexed modes, special modes of consecutive elements, and the widths of
scalars in floating point registers. -/
def VType.Unsupported (w : BitVec 32) : Prop :=
  (w.extractLsb' 0 7 = 0b1010111 ∧
    ((w.extractLsb' 26 6 = 0b010111 ∧ w.extractLsb' 25 1 = 1 ∧ w.extractLsb' 20 5 ≠ 0 ∧
      w.extractLsb' 12 3 ≠ 0b111) ∨
    w.extractLsb' 12 3 = 0b001 ∨ w.extractLsb' 12 3 = 0b101 ∨
    (w.extractLsb' 12 3 = 0b111 ∧ w.extractLsb' 30 2 = 0b10 ∧ w.extractLsb' 25 5 ≠ 0))) ∨
  ((w.extractLsb' 0 7 = 0b0000111 ∨ w.extractLsb' 0 7 = 0b0100111) ∧
    (w.extractLsb' 29 3 ≠ 0 ∨ w.extractLsb' 28 1 ≠ 0 ∨
    w.extractLsb' 26 2 = 0b01 ∨ w.extractLsb' 26 2 = 0b11 ∨
    (w.extractLsb' 26 2 = 0b00 ∧ w.extractLsb' 20 5 ≠ 0) ∨
    w.extractLsb' 12 3 ∈ [0b001, 0b010, 0b011, 0b100]))

/-- The numbers that select an operation are of its kind: widths of elements for memory, and for
arithmetic an integer operand and a `funct6` other than that of moves. -/
def VectorShape.IsInteger : VectorShape → Prop
  | vsetvli | vsetivli | vsetvl => True
  | load _ width | store _ width => width ∉ [0b001, 0b010, 0b011, 0b100]
  | arith funct6 funct3 _ => funct6 ≠ 0b010111 ∧ funct3 ∉ [0b001, 0b101, 0b111]
  | merge funct3 _ | move funct3 _ => funct3 ∉ [0b001, 0b101, 0b111]

instance (sh : VectorShape) : Decidable sh.IsInteger := by
  unfold VectorShape.IsInteger
  split <;> infer_instance

theorem VectorOp.isInteger_shape (op : VectorOp) : op.shape.IsInteger := by
  cases op <;> decide

namespace VType

variable {vm : BitVec 1} {funct3 width : BitVec 3} {first second vd : BitVec 5} {funct6 : BitVec 6}
  {opcode : BitVec 7}

theorem not_unsupported_arith (hf3 : funct3 ∉ [0b001, 0b101, 0b111])
    (hmove : ¬ (funct6 = 0b010111 ∧ vm = 1 ∧ second ≠ 0)) :
    ¬ Unsupported (arith funct6 vm second first funct3 vd) := by
  generalize hw : arith funct6 vm second first funct3 vd = w
  obtain ⟨hf6, hvm, hsecond, -, hf3', -, hop⟩ := arith_eq_iff.1 hw
  rw [Unsupported, ← hop, ← hf3', ← hf6, ← hvm, ← hsecond]
  rintro (⟨-, h | h | h | h⟩ | ⟨h, -⟩)
  · exact hmove ⟨h.1, h.2.1, h.2.2.1⟩
  · exact hf3 (by rw [h]; decide)
  · exact hf3 (by rw [h]; decide)
  · exact hf3 (by rw [h.1]; decide)
  · exact absurd h (by decide)

theorem not_unsupported_memory {a : Addressing} (stride : Stride a)
    (hop : opcode = 0b0000111 ∨ opcode = 0b0100111)
    (hwidth : width ∉ [0b001, 0b010, 0b011, 0b100]) :
    ¬ Unsupported (memory a.mop vm stride.bits first width vd opcode) := by
  generalize hw : memory a.mop vm stride.bits first width vd opcode = w
  obtain ⟨hnf, hmew, hmop, -, hbits, -, hwidth', -, hop'⟩ := memory_eq_iff.1 hw
  rw [Unsupported, ← hnf, ← hmew, ← hmop, ← hbits, ← hwidth', ← hop']
  rintro (⟨h, -⟩ | ⟨-, h | h | h | h | h | h⟩)
  · rcases hop with rfl | rfl <;> exact absurd h (by decide)
  · exact h rfl
  · exact h rfl
  · cases stride <;> exact absurd h (by decide)
  · cases stride <;> exact absurd h (by decide)
  · cases stride with
    | unit => exact h.2 rfl
    | register _ => exact absurd h.1 (by decide)
  · exact hwidth h

end VType

theorem VectorShape.Assembles.not_unsupported {sh : VectorShape} {fmt : Format} {o : Operands}
    {w : BitVec 32} (h : sh.Assembles fmt o w) (hsh : sh.IsInteger) : ¬ VType.Unsupported w := by
  cases h with
  | vsetvli rd rs1 vtype =>
    generalize hw : VType.vsetvli vtype rs1 rd = w
    obtain ⟨hhigh, -, -, hf3, -, hop⟩ := VType.vsetvli_eq_iff.1 hw
    have hne : w.extractLsb' 30 2 ≠ 0b10 := by
      intro h
      rw [← BitVec.toNat_inj, toNat_extractLsb'] at hhigh h
      simp only [BitVec.reduceToNat] at hhigh h
      omega
    simpa [VType.Unsupported, ← hop, ← hf3] using fun h => absurd h hne
  | vsetivli rd uimm vtype =>
    generalize hw : VType.vsetivli vtype uimm rd = w
    obtain ⟨hhigh, -, -, hf3, -, hop⟩ := VType.vsetivli_eq_iff.1 hw
    simp [VType.Unsupported, ← hop, ← hf3, ← hhigh]
  | vsetvl rd rs1 rs2 =>
    generalize hw : VType.vsetvl rs2 rs1 rd = w
    obtain ⟨hhigh, -, -, hf3, -, hop⟩ := VType.vsetvl_eq_iff.1 hw
    have hzero : w.extractLsb' 25 5 = 0 := by
      rw [← BitVec.toNat_inj, toNat_extractLsb'] at hhigh ⊢
      simp only [BitVec.reduceToNat] at hhigh ⊢
      omega
    simp [VType.Unsupported, ← hop, ← hf3, hzero]
  | load a width vd rs1 stride vm => exact VType.not_unsupported_memory stride (.inl rfl) hsh
  | store a width vs3 rs1 stride vm => exact VType.not_unsupported_memory stride (.inr rfl) hsh
  | arith funct6 funct3 k vd vs2 operand vm =>
    exact VType.not_unsupported_arith hsh.2 fun h => hsh.1 h.1
  | merge funct3 k vd vs2 operand =>
    exact VType.not_unsupported_arith hsh fun h => absurd h.2.1 (by decide)
  | move funct3 k vd operand =>
    exact VType.not_unsupported_arith hsh fun h => h.2.2 rfl

/-! ## Decoding -/

/-- The opcodes of RVV: OP-V, LOAD-FP and STORE-FP. -/
def vectorOpcodes : List (BitVec 7) := [0b1010111, 0b0000111, 0b0100111]

theorem Mnemonic.exists_vector {m : Mnemonic} {opcode : BitVec 7}
    (h : m.encoding.opcode = .major opcode.toNat) (hv : opcode ∈ vectorOpcodes) :
    ∃ op, m = .vector op := by
  have hdisj : ∀ e : Extension, ∀ k ∈ vectorOpcodes, Opcode.major k.toNat ∈ e.opcodes →
      e = .vector := by
    intro e
    cases e <;> decide
  have hm := hdisj _ opcode hv (h ▸ m.opcode_mem)
  cases m with
  | vector op => exact ⟨op, rfl⟩
  | integer op => cases hm
  | multiply op => cases hm
  | compressed op => cases hm

/-- Decoding inverts the assembly of RVV. The words of an operation decode to it, with the operands
and the mask that they are assembled from. Under an opcode of the vector set, a word that decodes is
one of these, and any other is an unknown encoding; the unsupported forms are among the others. -/
theorem Isa.decode_vector_words (s : Isa) (hs : s.supports .vector) :
    (∀ (op : VectorOp) fmt o w, op.shape.Assembles fmt o w →
      ∃ i, s.decode (.full w) = .ok i ∧ i.mnemonic = .vector op ∧ i.format = fmt ∧
        i.operands = o ∧ i.word = .full w) ∧
    ∀ w : BitVec 32, w.extractLsb' 0 7 ∈ vectorOpcodes →
      (∀ i, s.decode (.full w) = .ok i →
        ∃ op, i.mnemonic = .vector op ∧ op.shape.Assembles i.format i.operands w) ∧
      ((∀ (op : VectorOp) fmt o, ¬ op.shape.Assembles fmt o w) →
        s.decode (.full w) = .error (.unknownEncoding (Word.full w).opcode (.full w))) ∧
      (VType.Unsupported w →
        s.decode (.full w) = .error (.unknownEncoding (Word.full w).opcode (.full w))) := by
  have hreject : ∀ w : BitVec 32, w.extractLsb' 0 7 ∈ vectorOpcodes →
      (∀ (op : VectorOp) fmt o, ¬ op.shape.Assembles fmt o w) →
        s.decode (.full w) = .error (.unknownEncoding (Word.full w).opcode (.full w)) := by
    intro w hv hnone
    have hsub : ∀ k ∈ vectorOpcodes, Opcode.major k.toNat ∈ Extension.vector.opcodes := by decide
    refine decode_eq_unknown hs (hsub _ hv) ?_
    intro m fmt o hy
    obtain ⟨op, rfl⟩ := Mnemonic.exists_vector hy.1 hv
    rw [op.encoding_shape] at hy
    exact hnone op fmt o (op.shape.assembles_iff.2 hy)
  refine ⟨?_, fun w hv => ⟨?_, hreject w hv, ?_⟩⟩
  · intro op fmt o w h
    rw [VectorShape.assembles_iff, ← op.encoding_shape] at h
    exact decode_of_yields hs h
  · intro i h
    have hy := (yields_of_decode h).2
    obtain ⟨op, hop⟩ := Mnemonic.exists_vector hy.1 hv
    rw [hop, op.encoding_shape] at hy
    exact ⟨op, hop, op.shape.assembles_iff.2 hy⟩
  · intro hun
    apply hreject w hv
    intro op fmt o h
    exact h.not_unsupported op.isInteger_shape hun

/-- `vmsgtu.vi v31, v1, -16, v0.t` : the number keeps its sign although the comparison has none. -/
theorem Isa.decode_masked_comparison : rv32imvc.supports .vector ∧
    ∃ i, rv32imvc.decode (.full 0x78183FD7) = .ok i ∧ i.mnemonic = .vector .vmsgtuVi ∧
      i.format = .v ∧ i.operands = { dest := [⟨.v, 31⟩], src := [⟨.v, 1⟩], imm := [-16]
                                     mask := some .v0True } ∧ i.word = .full 0x78183FD7 := by
  have hs : rv32imvc.supports .vector := by decide
  have h := VectorShape.Assembles.arith 0b011110 0b011 .signed 31 1 (.signed (-16) (by decide)) 0
  exact ⟨hs, (decode_vector_words rv32imvc hs).1 .vmsgtuVi _ _ _ h⟩

end Rv32
