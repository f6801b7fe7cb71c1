import Rv32.Proofs.IntegerShapes

/-!
# Decoding the base set and multiplication

* `IntegerShape.assembles_iff` : the words of a shape are those that its encoding accepts, and the
  operands are those that it reads;
* `Isa.decode_integer_words` : decoding finds the operation and the operands of every such word, and
  rejects every other word with an opcode of the base set.
-/

namespace Rv32

/-! ## Words with the fields of an encoding -/

theorem IType.place_eq_iff (imm : BitVec 12) (rs1 : BitVec 5) (funct3 : BitVec 3) (rd : BitVec 5)
    (opcode : BitVec 7) (w : BitVec 32) : place imm rs1 funct3 rd opcode = w ↔
      imm = w.extractLsb' 20 12 ∧ rs1 = w.extractLsb' 15 5 ∧ funct3 = w.extractLsb' 12 3 ∧
        rd = w.extractLsb' 7 5 ∧ opcode = w.extractLsb' 0 7 := by
  rw [eq_iff_eq_piece]
  simp only [place, append_eq_piece_iff, and_assoc]

namespace Pattern

variable (funct7 : BitVec 7) (funct3 : BitVec 3) (w : BitVec 32)

theorem matches_funct3_iff :
    (ofFields [(14, 12, funct3.toNat)]).Matches w ↔ funct3 = w.extractLsb' 12 3 := by
  have hfields : AreFields [(14, 12, funct3.toNat)] := by
    have := funct3.isLt
    simp [AreFields]
    omega
  rw [matches_ofFields_iff hfields, List.forall_mem_singleton]
  exact field_eq_toNat_iff funct3 w

theorem matches_funct7_iff :
    (ofFields [(31, 25, funct7.toNat), (14, 12, funct3.toNat)]).Matches w ↔
      funct7 = w.extractLsb' 25 7 ∧ funct3 = w.extractLsb' 12 3 := by
  have hfields : AreFields [(31, 25, funct7.toNat), (14, 12, funct3.toNat)] := by
    have := funct3.isLt
    have := funct7.isLt
    simp [AreFields]
    omega
  rw [matches_ofFields_iff hfields, List.forall_mem_cons, List.forall_mem_singleton]
  exact and_congr (field_eq_toNat_iff funct7 w) (field_eq_toNat_iff funct3 w)

end Pattern

namespace Immediate

variable {n : Int}

theorem i_admits_iff : i.Admits n ↔ -2048 ≤ n ∧ n ≤ 2047 := by
  simp [Admits, i]
  omega

theorem s_admits_iff : s.Admits n ↔ -2048 ≤ n ∧ n ≤ 2047 := by
  simp [Admits, s]
  omega

theorem b_admits_iff : b.Admits n ↔ 2 ∣ n ∧ -4096 ≤ n ∧ n ≤ 4094 := by
  simp [Admits, b]
  omega

theorem u_admits_iff : u.Admits n ↔ 4096 ∣ n ∧ -2147483648 ≤ n ∧ n ≤ 2147483647 := by
  simp [Admits, u]
  omega

theorem j_admits_iff : j.Admits n ↔ 2 ∣ n ∧ -1048576 ≤ n ∧ n ≤ 1048574 := by
  simp [Admits, j]
  omega

end Immediate

/-! ## Each shape is read back by its encoding -/

namespace IntegerShape

variable {opcode funct7 : BitVec 7} {funct3 : BitVec 3} {code : BitVec 12} {fmt : Format}
  {o : Operands} {w : BitVec 32}

theorem Assembles.of_eq {sh : IntegerShape} {v : BitVec 32} (h : sh.Assembles fmt o v)
    (hv : v = w) : sh.Assembles fmt o w := hv ▸ h

theorem assembles_upper_iff : (upper opcode).Assembles fmt o w ↔
    (upper opcode).encoding.Yields (.full w) fmt o := by
  rw [Encoding.yields_full_iff opcode w rfl rfl]
  have hread : (upper opcode).encoding.read w =
      { dest := [.x (w.extractLsb' 7 5)], imm := [Immediate.u.read w] } := by
    simp [encoding, IntegerOp.upperImmediate, Encoding.read, Masking.read]
  rw [hread]
  constructor
  · intro h
    cases h with
    | upper _ rd n aligned range =>
      -- the operands that the word was built from are replaced by those read from the word
      generalize hw : UType.write ⟨rd, n⟩ opcode = w
      have hn := Immediate.u_admits_iff.2 ⟨aligned, range⟩
      obtain ⟨hf, hop⟩ := (UType.write_eq_iff opcode w _ hn).1 hw
      obtain ⟨rfl, rfl⟩ := UType.mk.inj hf
      exact ⟨hop, Pattern.matches_nil w, rfl, rfl⟩
  · rintro ⟨hop, -, rfl, rfl⟩
    have hn := Immediate.admits_read (m := .u) (by decide) w
    obtain ⟨aligned, range⟩ := Immediate.u_admits_iff.1 hn
    have hw := (UType.write_eq_iff opcode w (UType.read w) hn).2 ⟨rfl, hop⟩
    exact (Assembles.upper _ _ _ aligned range).of_eq hw

theorem assembles_jump_iff : jump.Assembles fmt o w ↔ jump.encoding.Yields (.full w) fmt o := by
  rw [Encoding.yields_full_iff 0b1101111 w rfl rfl]
  have hread : jump.encoding.read w =
      { dest := [.x (w.extractLsb' 7 5)], imm := [Immediate.j.read w] } := by
    simp [encoding, IntegerOp.form, Encoding.read, Masking.read]
  rw [hread]
  constructor
  · intro h
    cases h with
    | jump rd n even range =>
      generalize hw : JType.write ⟨rd, n⟩ 0b1101111 = w
      have hn := Immediate.j_admits_iff.2 ⟨even, range⟩
      obtain ⟨hf, hop⟩ := (JType.write_eq_iff _ w _ hn).1 hw
      obtain ⟨rfl, rfl⟩ := JType.mk.inj hf
      exact ⟨hop, Pattern.matches_nil w, rfl, rfl⟩
  · rintro ⟨hop, -, rfl, rfl⟩
    have hn := Immediate.admits_read (m := .j) (by decide) w
    obtain ⟨even, range⟩ := Immediate.j_admits_iff.1 hn
    have hw := (JType.write_eq_iff _ w (JType.read w) hn).2 ⟨rfl, hop⟩
    exact (Assembles.jump _ _ even range).of_eq hw

theorem assembles_branch_iff : (branch funct3).Assembles fmt o w ↔
    (branch funct3).encoding.Yields (.full w) fmt o := by
  rw [Encoding.yields_full_iff 0b1100011 w rfl rfl]
  have hread : (branch funct3).encoding.read w =
      { src := [.x (w.extractLsb' 15 5), .x (w.extractLsb' 20 5)]
        imm := [Immediate.b.read w] } := by
    simp [encoding, IntegerOp.branchIf, Encoding.read, Masking.read]
  rw [hread]
  constructor
  · intro h
    cases h with
    | branch _ rs1 rs2 n even range =>
      generalize hw : BType.write ⟨rs1, rs2, funct3, n⟩ 0b1100011 = w
      have hn := Immediate.b_admits_iff.2 ⟨even, range⟩
      obtain ⟨hf, hop⟩ := (BType.write_eq_iff _ w _ hn).1 hw
      obtain ⟨rfl, rfl, hf3, rfl⟩ := BType.mk.inj hf
      exact ⟨hop, (Pattern.matches_funct3_iff _ w).2 hf3, rfl, rfl⟩
  · rintro ⟨hop, hfixed, rfl, rfl⟩
    obtain rfl := (Pattern.matches_funct3_iff _ w).1 hfixed
    have hn := Immediate.admits_read (m := .b) (by decide) w
    obtain ⟨even, range⟩ := Immediate.b_admits_iff.1 hn
    have hw := (BType.write_eq_iff _ w (BType.read w) hn).2 ⟨rfl, hop⟩
    exact (Assembles.branch _ _ _ _ even range).of_eq hw

theorem assembles_immediate_iff : (immediate opcode funct3).Assembles fmt o w ↔
    (immediate opcode funct3).encoding.Yields (.full w) fmt o := by
  rw [Encoding.yields_full_iff opcode w rfl rfl]
  have hread : (immediate opcode funct3).encoding.read w =
      { dest := [.x (w.extractLsb' 7 5)], src := [.x (w.extractLsb' 15 5)]
        imm := [Immediate.i.read w] } := by
    simp [encoding, IntegerOp.registerImmediate, Encoding.read, Masking.read]
  rw [hread]
  constructor
  · intro h
    cases h with
    | immediate _ _ rd rs1 n range =>
      generalize hw : IType.write ⟨rd, rs1, funct3, n⟩ opcode = w
      obtain ⟨hf, hop⟩ := (IType.write_eq_iff _ w _ (Immediate.i_admits_iff.2 range)).1 hw
      obtain ⟨rfl, rfl, hf3, rfl⟩ := IType.mk.inj hf
      exact ⟨hop, (Pattern.matches_funct3_iff _ w).2 hf3, rfl, rfl⟩
  · rintro ⟨hop, hfixed, rfl, rfl⟩
    obtain rfl := (Pattern.matches_funct3_iff _ w).1 hfixed
    have hn := Immediate.admits_read (m := .i) (by decide) w
    have hw := (IType.write_eq_iff opcode w (IType.read w) hn).2 ⟨rfl, hop⟩
    exact (Assembles.immediate _ _ _ _ _ (Immediate.i_admits_iff.1 hn)).of_eq hw

theorem assembles_store_iff : (store funct3).Assembles fmt o w ↔
    (store funct3).encoding.Yields (.full w) fmt o := by
  rw [Encoding.yields_full_iff 0b0100011 w rfl rfl]
  have hread : (store funct3).encoding.read w =
      { src := [.x (w.extractLsb' 15 5), .x (w.extractLsb' 20 5)]
        imm := [Immediate.s.read w] } := by
    simp [encoding, IntegerOp.storeTo, Encoding.read, Masking.read]
  rw [hread]
  constructor
  · intro h
    cases h with
    | store _ rs1 rs2 n range =>
      generalize hw : SType.write ⟨rs1, rs2, funct3, n⟩ 0b0100011 = w
      obtain ⟨hf, hop⟩ := (SType.write_eq_iff _ w _ (Immediate.s_admits_iff.2 range)).1 hw
      obtain ⟨rfl, rfl, hf3, rfl⟩ := SType.mk.inj hf
      exact ⟨hop, (Pattern.matches_funct3_iff _ w).2 hf3, rfl, rfl⟩
  · rintro ⟨hop, hfixed, rfl, rfl⟩
    obtain rfl := (Pattern.matches_funct3_iff _ w).1 hfixed
    have hn := Immediate.admits_read (m := .s) (by decide) w
    have hw := (SType.write_eq_iff _ w (SType.read w) hn).2 ⟨rfl, hop⟩
    exact (Assembles.store _ _ _ _ (Immediate.s_admits_iff.1 hn)).of_eq hw

theorem assembles_shift_iff : (shift funct7 funct3).Assembles fmt o w ↔
    (shift funct7 funct3).encoding.Yields (.full w) fmt o := by
  rw [Encoding.yields_full_iff 0b0010011 w rfl rfl]
  have hshamt : Immediate.shamt.read w = (w.extractLsb' 20 5).toNat :=
    Immediate.read_unsigned w rfl (by decide)
  have hread : (shift funct7 funct3).encoding.read w =
      { dest := [.x (w.extractLsb' 7 5)], src := [.x (w.extractLsb' 15 5)]
        imm := [(w.extractLsb' 20 5).toNat] } := by
    simp [encoding, IntegerOp.shiftImmediate, Encoding.read, Masking.read, hshamt]
  rw [hread]
  constructor
  · intro h
    cases h with
    | shift _ _ rd rs1 shamt =>
      generalize hw : RType.write ⟨rd, rs1, shamt, funct3, funct7⟩ 0b0010011 = w
      obtain ⟨hf, hop⟩ := (RType.write_eq_iff _ w _).1 hw
      obtain ⟨rfl, rfl, rfl, hf3, hf7⟩ := RType.mk.inj hf
      exact ⟨hop, (Pattern.matches_funct7_iff _ _ w).2 ⟨hf7, hf3⟩, rfl, rfl⟩
  · rintro ⟨hop, hfixed, rfl, rfl⟩
    obtain ⟨rfl, rfl⟩ := (Pattern.matches_funct7_iff _ _ w).1 hfixed
    have hw := (RType.write_eq_iff _ w (RType.read w)).2 ⟨rfl, hop⟩
    exact (Assembles.shift _ _ _ _ _).of_eq hw

theorem assembles_registers_iff : (registers funct7 funct3).Assembles fmt o w ↔
    (registers funct7 funct3).encoding.Yields (.full w) fmt o := by
  rw [Encoding.yields_full_iff 0b0110011 w rfl rfl]
  have hread : (registers funct7 funct3).encoding.read w =
      { dest := [.x (w.extractLsb' 7 5)]
        src := [.x (w.extractLsb' 15 5), .x (w.extractLsb' 20 5)] } := by
    simp [encoding, IntegerOp.registers, Encoding.read, Masking.read]
  rw [hread]
  constructor
  · intro h
    cases h with
    | registers _ _ rd rs1 rs2 =>
      generalize hw : RType.write ⟨rd, rs1, rs2, funct3, funct7⟩ 0b0110011 = w
      obtain ⟨hf, hop⟩ := (RType.write_eq_iff _ w _).1 hw
      obtain ⟨rfl, rfl, rfl, hf3, hf7⟩ := RType.mk.inj hf
      exact ⟨hop, (Pattern.matches_funct7_iff _ _ w).2 ⟨hf7, hf3⟩, rfl, rfl⟩
  · rintro ⟨hop, hfixed, rfl, rfl⟩
    obtain ⟨rfl, rfl⟩ := (Pattern.matches_funct7_iff _ _ w).1 hfixed
    have hw := (RType.write_eq_iff _ w (RType.read w)).2 ⟨rfl, hop⟩
    exact (Assembles.registers _ _ _ _ _).of_eq hw

theorem assembles_fence_iff : fence.Assembles fmt o w ↔ fence.encoding.Yields (.full w) fmt o := by
  rw [Encoding.yields_full_iff 0b0001111 w rfl rfl]
  have hpred : Immediate.pred.read w = (w.extractLsb' 24 4).toNat :=
    Immediate.read_unsigned w rfl (by decide)
  have hsucc : Immediate.succ.read w = (w.extractLsb' 20 4).toNat :=
    Immediate.read_unsigned w rfl (by decide)
  have hread : fence.encoding.read w =
      { imm := [(w.extractLsb' 24 4).toNat, (w.extractLsb' 20 4).toNat] } := by
    simp [encoding, IntegerOp.form, Encoding.read, Masking.read, hpred, hsucc]
  -- the accesses and the bits above them share the field of the immediate
  have hpieces : ∀ fm pred succ : BitVec 4, fm ++ pred ++ succ = w.extractLsb' 20 12 ↔
      fm = w.extractLsb' 28 4 ∧ pred = w.extractLsb' 24 4 ∧ succ = w.extractLsb' 20 4 := by
    intro fm pred succ
    simp only [append_eq_piece_iff, and_assoc]
  rw [hread]
  constructor
  · intro h
    cases h with
    | fence pred succ fm rs1 rd =>
      generalize hw : IType.place (fm ++ pred ++ succ) rs1 0b000 rd 0b0001111 = w
      obtain ⟨hi, -, hf3, -, hop⟩ := (IType.place_eq_iff _ _ _ _ _ w).1 hw
      rw [hw] at hpieces
      obtain ⟨-, rfl, rfl⟩ := (hpieces fm pred succ).1 hi
      exact ⟨hop, (Pattern.matches_funct3_iff 0b000 w).2 hf3, rfl, rfl⟩
  · rintro ⟨hop, hfixed, rfl, rfl⟩
    have hf3 := (Pattern.matches_funct3_iff 0b000 w).1 hfixed
    have hi := (hpieces _ _ _).2 ⟨rfl, rfl, rfl⟩
    have hw := (IType.place_eq_iff _ _ _ _ _ w).2 ⟨hi, rfl, hf3, rfl, hop⟩
    exact (Assembles.fence _ _ _ _ _).of_eq hw

theorem assembles_fenceI_iff : fenceI.Assembles fmt o w ↔
    fenceI.encoding.Yields (.full w) fmt o := by
  rw [Encoding.yields_full_iff 0b0001111 w rfl rfl]
  constructor
  · intro h
    cases h with
    | fenceI imm rs1 rd =>
      generalize hw : IType.place imm rs1 0b001 rd 0b0001111 = w
      obtain ⟨-, -, hf3, -, hop⟩ := (IType.place_eq_iff _ _ _ _ _ w).1 hw
      exact ⟨hop, (Pattern.matches_funct3_iff 0b001 w).2 hf3, rfl, rfl⟩
  · rintro ⟨hop, hfixed, rfl, rfl⟩
    have hf3 := (Pattern.matches_funct3_iff 0b001 w).1 hfixed
    have hw := (IType.place_eq_iff _ _ _ _ _ w).2 ⟨rfl, rfl, hf3, rfl, hop⟩
    exact (Assembles.fenceI _ _ _).of_eq hw

theorem assembles_environment_iff : (environment code).Assembles fmt o w ↔
    (environment code).encoding.Yields (.full w) fmt o := by
  rw [Encoding.yields_full_iff 0b1110011 w rfl rfl]
  constructor
  · intro h
    cases h with
    | environment =>
      generalize hw : IType.place code 0 0b000 0 0b1110011 = w
      obtain ⟨-, -, -, -, hop⟩ := (IType.place_eq_iff _ _ _ _ _ w).1 hw
      exact ⟨hop, (Pattern.matches_word_iff _ w).2 hw, rfl, rfl⟩
  · rintro ⟨-, hfixed, rfl, rfl⟩
    exact (Assembles.environment code).of_eq ((Pattern.matches_word_iff _ w).1 hfixed)

theorem assembles_csr_iff : (csr funct3).Assembles fmt o w ↔
    (csr funct3).encoding.Yields (.full w) fmt o := by
  rw [Encoding.yields_full_iff 0b1110011 w rfl rfl]
  have hcsr : Immediate.csr.read w = (w.extractLsb' 20 12).toNat :=
    Immediate.read_unsigned w rfl (by decide)
  have hread : (csr funct3).encoding.read w =
      { dest := [.x (w.extractLsb' 7 5)], src := [.x (w.extractLsb' 15 5)]
        imm := [(w.extractLsb' 20 12).toNat] } := by
    simp [encoding, IntegerOp.csrRegister, Encoding.read, Masking.read, hcsr]
  rw [hread]
  constructor
  · intro h
    cases h with
    | csr _ rd rs1 address =>
      generalize hw : IType.place address rs1 funct3 rd 0b1110011 = w
      obtain ⟨rfl, rfl, hf3, rfl, hop⟩ := (IType.place_eq_iff _ _ _ _ _ w).1 hw
      exact ⟨hop, (Pattern.matches_funct3_iff _ w).2 hf3, rfl, rfl⟩
  · rintro ⟨hop, hfixed, rfl, rfl⟩
    have hf3 := (Pattern.matches_funct3_iff _ w).1 hfixed
    have hw := (IType.place_eq_iff _ _ _ _ _ w).2 ⟨rfl, rfl, hf3, rfl, hop⟩
    exact (Assembles.csr _ _ _ _).of_eq hw

theorem assembles_csrImmediate_iff : (csrImmediate funct3).Assembles fmt o w ↔
    (csrImmediate funct3).encoding.Yields (.full w) fmt o := by
  rw [Encoding.yields_full_iff 0b1110011 w rfl rfl]
  have hcsr : Immediate.csr.read w = (w.extractLsb' 20 12).toNat :=
    Immediate.read_unsigned w rfl (by decide)
  have huimm : Immediate.uimm.read w = (w.extractLsb' 15 5).toNat :=
    Immediate.read_unsigned w rfl (by decide)
  have hread : (csrImmediate funct3).encoding.read w =
      { dest := [.x (w.extractLsb' 7 5)]
        imm := [(w.extractLsb' 20 12).toNat, (w.extractLsb' 15 5).toNat] } := by
    simp [encoding, IntegerOp.csrImmediate, Encoding.read, Masking.read, hcsr, huimm]
  rw [hread]
  constructor
  · intro h
    cases h with
    | csrImmediate _ rd uimm address =>
      generalize hw : IType.place address uimm funct3 rd 0b1110011 = w
      obtain ⟨rfl, rfl, hf3, rfl, hop⟩ := (IType.place_eq_iff _ _ _ _ _ w).1 hw
      exact ⟨hop, (Pattern.matches_funct3_iff _ w).2 hf3, rfl, rfl⟩
  · rintro ⟨hop, hfixed, rfl, rfl⟩
    have hf3 := (Pattern.matches_funct3_iff _ w).1 hfixed
    have hw := (IType.place_eq_iff _ _ _ _ _ w).2 ⟨rfl, rfl, hf3, rfl, hop⟩
    exact (Assembles.csrImmediate _ _ _ _).of_eq hw

/-- The words of a shape are those that its encoding accepts, and what is read from each is what it
was assembled from. -/
theorem assembles_iff (sh : IntegerShape) :
    sh.Assembles fmt o w ↔ sh.encoding.Yields (.full w) fmt o := by
  cases sh with
  | upper _ => exact assembles_upper_iff
  | jump => exact assembles_jump_iff
  | branch _ => exact assembles_branch_iff
  | immediate _ _ => exact assembles_immediate_iff
  | store _ => exact assembles_store_iff
  | shift _ _ => exact assembles_shift_iff
  | registers _ _ => exact assembles_registers_iff
  | fence => exact assembles_fence_iff
  | fenceI => exact assembles_fenceI_iff
  | environment _ => exact assembles_environment_iff
  | csr _ => exact assembles_csr_iff
  | csrImmediate _ => exact assembles_csrImmediate_iff

end IntegerShape

/-! ## Decoding -/

theorem Mnemonic.exists_integerShape? {m : Mnemonic} {opcode : BitVec 7}
    (h : m.encoding.opcode = .major opcode.toNat) (hbase : opcode ∈ baseOpcodes) :
    ∃ sh, m.integerShape? = some sh := by
  have hmem := m.opcode_mem
  rw [h] at hmem
  cases m with
  | integer op => exact ⟨_, rfl⟩
  | multiply op => exact ⟨_, rfl⟩
  | compressed op =>
    have hdisj : ∀ k ∈ baseOpcodes, Opcode.major k.toNat ∉ Extension.compressed.opcodes := by decide
    exact absurd hmem (hdisj opcode hbase)
  | vector op =>
    have hdisj : ∀ k ∈ baseOpcodes, Opcode.major k.toNat ∉ Extension.vector.opcodes := by decide
    exact absurd hmem (hdisj opcode hbase)

theorem baseOpcodes_subset {opcode : BitVec 7} (h : opcode ∈ baseOpcodes) :
    Opcode.major opcode.toNat ∈ Extension.integer.opcodes := by
  have hall : ∀ k ∈ baseOpcodes, Opcode.major k.toNat ∈ Extension.integer.opcodes := by decide
  exact hall opcode h

/-- Decoding inverts the assembly of RV32I and RV32M. The words of an operation decode to it, with
the operands that they are assembled from. Under an opcode of the base set, a word that decodes is
one of these, and any other is an unknown encoding. -/
theorem Isa.decode_integer_words (s : Isa) (hi : s.supports .integer) (hm : s.supports .multiply) :
    (∀ (m : Mnemonic) (sh : IntegerShape), m.integerShape? = some sh →
      ∀ fmt o w, sh.Assembles fmt o w → ∃ i, s.decode (.full w) = .ok i ∧
        i.mnemonic = m ∧ i.format = fmt ∧ i.operands = o ∧ i.word = .full w) ∧
    ∀ w : BitVec 32, w.extractLsb' 0 7 ∈ baseOpcodes →
      (∀ i, s.decode (.full w) = .ok i →
        ∃ sh, i.mnemonic.integerShape? = some sh ∧ sh.Assembles i.format i.operands w) ∧
      ((∀ (m : Mnemonic) sh fmt o, m.integerShape? = some sh → ¬ sh.Assembles fmt o w) →
        s.decode (.full w) = .error (.unknownEncoding (Word.full w).opcode (.full w))) := by
  refine ⟨?_, fun w hbase => ⟨?_, ?_⟩⟩
  · intro m sh hsh fmt o w h
    rw [IntegerShape.assembles_iff, ← Mnemonic.encoding_of_integerShape? hsh] at h
    have hs : s.supports m.extension := by
      cases m with
      | integer op => exact hi
      | multiply op => exact hm
      | compressed op => cases hsh
      | vector op => cases hsh
    exact decode_of_yields hs h
  · intro i h
    have hy := (yields_of_decode h).2
    obtain ⟨sh, hsh⟩ := Mnemonic.exists_integerShape? hy.1 hbase
    rw [Mnemonic.encoding_of_integerShape? hsh] at hy
    exact ⟨sh, hsh, sh.assembles_iff.2 hy⟩
  · intro hnone
    refine decode_eq_unknown hi (baseOpcodes_subset hbase) ?_
    intro m fmt o hy
    obtain ⟨sh, hsh⟩ := Mnemonic.exists_integerShape? hy.1 hbase
    rw [Mnemonic.encoding_of_integerShape? hsh] at hy
    exact hnone m sh fmt o hsh (sh.assembles_iff.2 hy)

/-- `jal ra, -4` : the sign and all parts of the immediate are scattered over the word. -/
theorem Isa.decode_jal_backwards : rv32im.supports .integer ∧ rv32im.supports .multiply ∧
    ∃ i, rv32im.decode (.full 0xFFDFF0EF) = .ok i ∧ i.mnemonic = .integer .jal ∧ i.format = .j ∧
      i.operands = { dest := [.ra], imm := [-4] } ∧ i.word = .full 0xFFDFF0EF := by
  have hi : rv32im.supports .integer := by decide
  have hm : rv32im.supports .multiply := by decide
  have h := IntegerShape.Assembles.jump 1 (-4) (by decide) (by decide)
  exact ⟨hi, hm, (decode_integer_words rv32im hi hm).1 (.integer .jal) .jump rfl _ _ _ h⟩

end Rv32
