import Rv32.Proofs.Assembly

/-!
# Decoded instructions are well formed

What an operation does to the flow of control and to memory is stated apart from its encoding, and so
is whether it is compressed. That they agree is a fact on the table of operations, and the operands
of an instruction follow the table, as reading a word keeps their number and their files.

* `Profile` : how many operands there are, and the files of the registers among them;
* `Encoding.profile_read` : an encoding reads operands of its own profile from every word;
* `Kind.Takes` : the profiles that go with a kind of operation;
* `Instruction.IsWellFormed` : what is expected of an instruction;
* `Isa.decode_isWellFormed` : each decoded instruction is well formed, and the ones of an operation
  are alike.
-/

namespace Rv32

/-! ## Profiles of operands -/

/-- The files of the registers that are written and read, in order, the number of immediates, and
whether there is a mask. -/
structure Profile where
  dest : List RegisterFile
  src : List RegisterFile
  imm : Nat
  masked : Bool
deriving DecidableEq

def Operands.profile (o : Operands) : Profile where
  dest := o.dest.map Register.file
  src := o.src.map Register.file
  imm := o.imm.length
  masked := o.mask.isSome

def Encoding.profile (e : Encoding) : Profile where
  dest := e.dest.map RegisterField.file
  src := e.src.map RegisterField.file
  imm := e.imm.length
  masked := e.masking != .absent

theorem Masking.isSome_read (m : Masking) (w : BitVec 32) : (m.read w).isSome = (m != absent) := by
  cases m <;> rfl

theorem Encoding.profile_read (e : Encoding) (w : BitVec 32) : (e.read w).profile = e.profile := by
  have hfile : Register.file ∘ (fun f : RegisterField => f.read w) = RegisterField.file := rfl
  simp only [Operands.profile, profile, read, List.map_map, hfile, List.length_map,
    Masking.isSome_read]

/-- The profiles that go with a kind of operation. -/
def Kind.Takes (k : Kind) (p : Profile) : Prop :=
  match k with
  | other => True
  | load => p.dest.length = 1 ∧ p.src = [.x] ∧ p.imm = 1
  | store => p.dest = [] ∧ p.src.length = 2 ∧ p.src.head? = some .x ∧ p.imm = 1
  | branch => p.dest = [] ∧ (p.src = [.x] ∨ p.src = [.x, .x]) ∧ p.imm = 1
  | jumpPcRelative => p.src = [] ∧ p.imm = 1
  | jump => p.src = [.x]

instance (k : Kind) (p : Profile) : Decidable (k.Takes p) := by
  unfold Kind.Takes; split <;> infer_instance

/-! ## Well-formed instructions -/

namespace Mnemonic

/-- The loads and stores of floating-point registers. -/
def floatLoads : List Mnemonic :=
  [.compressed .fld, .compressed .flw, .compressed .fldsp, .compressed .flwsp]

def floatStores : List Mnemonic :=
  [.compressed .fsd, .compressed .fsw, .compressed .fsdsp, .compressed .fswsp]

/-- The operations that configure the vector unit. -/
def configurations : List Mnemonic := [.vector .vsetvli, .vector .vsetivli, .vector .vsetvl]

end Mnemonic

def Format.vectors : List Format := [.v, .vl, .vs]

structure Instruction.IsWellFormed (i : Instruction) : Prop where
  index_le : ∀ r ∈ i.operands.dest ++ i.operands.src, r.index ≤ 31
  compressed : [i.size = 16, i.format.isCompressed = true, i.mnemonic.isCompressed = true,
    ['c', '.'] <+: i.mnemonic.text.toList, i.word.width = .half].TFAE
  masked : i.operands.mask.isSome ↔ i.format ∈ Format.vectors ∧ i.mnemonic ∉ Mnemonic.configurations
  vector : ∀ r ∈ i.operands.dest ++ i.operands.src, r.file = .v → i.format ∈ Format.vectors
  /-- A floating-point register is the one that is loaded, or the one that is stored behind the base
  of the address. -/
  floatDest : ∀ r ∈ i.operands.dest, r.file = .f → i.mnemonic ∈ Mnemonic.floatLoads
  floatSrc : ∀ k r, i.operands.src[k]? = some r → r.file = .f →
    k = 1 ∧ i.mnemonic ∈ Mnemonic.floatStores
  operands : i.mnemonic.kind.Takes i.operands.profile
  even : i.isBranch ∨ i.isJumpPcRelative → ∀ n ∈ i.operands.imm, Even n

/-! ## The table of operations -/

/-- The field can hold the numbers of registers only. -/
def RegisterField.IsBounded (f : RegisterField) : Prop :=
  (∀ s ∈ f.layout, s.place + s.length ≤ f.layout.length) ∧ f.base + 2 ^ f.layout.length ≤ 32

instance (f : RegisterField) : Decidable f.IsBounded := inferInstanceAs (Decidable (_ ∧ _))

namespace Mnemonic

theorem isBounded_fields : ∀ m : Mnemonic, ∀ f ∈ m.encoding.dest ++ m.encoding.src, f.IsBounded := by
  decide +kernel

theorem isCompressed_iff_text : ∀ m : Mnemonic, m.isCompressed ↔ ['c', '.'] <+: m.text.toList := by
  decide +kernel

theorem isCompressed_opcode : ∀ m : Mnemonic,
    m.encoding.opcode.isCompressed = m.isCompressed := by
  decide +kernel

theorem isCompressed_format : ∀ m : Mnemonic,
    m.encoding.format.isCompressed = m.isCompressed := by
  decide +kernel

theorem takes_profile : ∀ m : Mnemonic, m.kind.Takes m.encoding.profile := by decide +kernel

theorem masked_profile_iff : ∀ m : Mnemonic,
    m.encoding.profile.masked ↔ m.encoding.format ∈ Format.vectors ∧ m ∉ configurations := by
  decide +kernel

/-- Where registers of the other files than that of integers occur. -/
theorem files_profile : ∀ m : Mnemonic,
    (.v ∈ m.encoding.profile.dest ++ m.encoding.profile.src → m.encoding.format ∈ Format.vectors) ∧
    (.f ∈ m.encoding.profile.dest → m ∈ floatLoads) ∧
    ∀ k < m.encoding.profile.src.length, m.encoding.profile.src[k]? = some .f →
      k = 1 ∧ m ∈ floatStores := by
  decide +kernel

/-- Distances of branches and jumps are in half words. -/
theorem align_pos : ∀ m : Mnemonic, m.kind = .branch ∨ m.kind = .jumpPcRelative →
    ∀ n ∈ m.encoding.imm, 0 < n.align := by
  decide +kernel

end Mnemonic

/-! ## What a word holds -/

theorem RegisterField.index_read_le {f : RegisterField} (hf : f.IsBounded) (w : BitVec 32) :
    (f.read w).index ≤ 31 := by
  have hlt := Layout.toNat_gather_lt hf.1 w
  have hbase := hf.2
  change f.base + (f.layout.gather w).toNat ≤ 31
  omega

theorem Immediate.even_read {m : Immediate} (hm : m.IsExact) (h : 0 < m.align) (w : BitVec 32) :
    Even (m.read w) := by
  have hdvd := (admits_iff.1 (admits_read hm w)).1
  exact even_iff_two_dvd.2 ((dvd_pow_self 2 h.ne').trans hdvd)

theorem Word.width_eq_half_iff (w : Word) : w.width = .half ↔ w.opcode.isCompressed := by
  cases w <;> simp [width, opcode, Opcode.isCompressed]

theorem Word.length_eq_iff (w : Word) : w.length = 16 ↔ w.width = .half := by
  cases w <;> simp [length, width, Width.bits]

/-! ## Decoded instructions -/

namespace Mnemonic

variable {m : Mnemonic} {w : Word}

theorem compressed_tfae (h : m.Fits w) :
    [w.length = 16, m.encoding.format.isCompressed = true, m.isCompressed = true,
      ['c', '.'] <+: m.text.toList, w.width = .half].TFAE := by
  have hopcode : w.opcode.isCompressed = m.isCompressed := h.1 ▸ m.isCompressed_opcode
  refine List.tfae_of_forall (m.isCompressed = true) _ ?_
  simp [w.length_eq_iff, w.width_eq_half_iff, hopcode, m.isCompressed_format,
    m.isCompressed_iff_text]

theorem profile_instruction (m : Mnemonic) (w : Word) :
    (m.instruction w).operands.profile = m.encoding.profile := m.encoding.profile_read w.value

theorem isWellFormed_instruction (h : m.Fits w) : (m.instruction w).IsWellFormed where
  index_le := by
    intro r hr
    change r ∈ m.encoding.dest.map _ ++ m.encoding.src.map _ at hr
    rw [← List.map_append] at hr
    obtain ⟨f, hf, rfl⟩ := List.mem_map.1 hr
    exact RegisterField.index_read_le (m.isBounded_fields f hf) w.value
  compressed := compressed_tfae h
  masked := by
    have hmask := m.masked_profile_iff
    rw [← m.profile_instruction w] at hmask
    exact hmask
  vector := by
    intro r hr hfile
    refine m.files_profile.1 ?_
    rw [← m.profile_instruction w, ← hfile]
    simpa only [Operands.profile, ← List.map_append] using List.mem_map_of_mem hr
  floatDest := by
    intro r hr hfile
    refine m.files_profile.2.1 ?_
    rw [← m.profile_instruction w, ← hfile]
    exact List.mem_map_of_mem hr
  floatSrc := by
    intro k r hr hfile
    have hfiles : m.encoding.profile.src[k]? = some .f := by
      rw [← m.profile_instruction w, Operands.profile, List.getElem?_map, hr, ← hfile]
      rfl
    obtain ⟨hk, -⟩ := List.getElem?_eq_some_iff.1 hfiles
    exact m.files_profile.2.2 k hk hfiles
  operands := (m.profile_instruction w) ▸ m.takes_profile
  even := by
    intro hkind n hn
    simp only [Instruction.isBranch, Instruction.isJumpPcRelative, beq_iff_eq] at hkind
    obtain ⟨k, hk, rfl⟩ := List.mem_map.1 hn
    exact Immediate.even_read (m.isExact_encoding.2.2 k hk) (m.align_pos hkind k hk) w.value

end Mnemonic

/-- Each decoded instruction is well formed. Instructions of one operation have the same opcode and
format, as many operands of each sort, registers of the same files, and all or none of them a mask,
whatever the instruction sets that decode them. -/
theorem Isa.decode_isWellFormed :
    (∀ (s : Isa) (w : Word) (i : Instruction), s.decode w = .ok i → i.IsWellFormed) ∧
    ∀ (s t : Isa) (v w : Word) (i j : Instruction), s.decode v = .ok i → t.decode w = .ok j →
      i.mnemonic = j.mnemonic →
        i.word.opcode = j.word.opcode ∧ i.format = j.format ∧
          i.operands.profile = j.operands.profile := by
  constructor
  · intro s w i hi
    obtain ⟨m, -, hm, rfl⟩ := decode_eq_ok_iff.1 hi
    exact Mnemonic.isWellFormed_instruction hm
  · intro s t v w i j hi hj hij
    obtain ⟨m, -, hm, rfl⟩ := decode_eq_ok_iff.1 hi
    obtain ⟨n, -, hn, rfl⟩ := decode_eq_ok_iff.1 hj
    have hformat : (m.instruction v).format = (n.instruction w).format := by
      rw [Instruction.format, hij, Instruction.format]
    obtain rfl : m = n := hij
    refine ⟨hm.1.symm.trans hn.1, hformat, ?_⟩
    rw [m.profile_instruction v, m.profile_instruction w]

/-- Two stores of floating-point registers, each behind an integer register as the base. -/
theorem Isa.decode_float_stores :
    ∃ i j, rv32imc.decode (.half 0xE188) = .ok i ∧ rv32imvc.decode (.half 0xF9FC) = .ok j ∧
      i.mnemonic = j.mnemonic ∧ i.IsWellFormed ∧ i.operands.profile = ⟨[], [.x, .f], 1, false⟩ ∧
      i.word.opcode = j.word.opcode ∧ i.format = j.format ∧
      i.operands.profile = j.operands.profile := by
  have hi : rv32imc.decode (.half 0xE188) =
      .ok (Mnemonic.instruction (.compressed .fsw) (.half 0xE188)) := by rfl
  have hj : rv32imvc.decode (.half 0xF9FC) =
      .ok (Mnemonic.instruction (.compressed .fsw) (.half 0xF9FC)) := by rfl
  exact ⟨_, _, hi, hj, rfl, decode_isWellFormed.1 _ _ _ hi, by rfl,
    decode_isWellFormed.2 _ _ _ _ _ _ hi hj rfl⟩

end Rv32
