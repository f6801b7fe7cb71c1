import Rv32.Proofs.CompressedFields
import Rv32.Proofs.Decode

/-!
# Shapes of compressed half words

The half words of RVC as the manual lists them.

* `CompressedShape` : what the half words of an operation look like, with the numbers that select the
  operation; `CompressedOp.shape` lists them;
* `CompressedShape.Assembles` : the half words of a shape, with the operands that stand in them;
* `CompressedShape.yields_load_iff` and its like : the half words that the encoding of a shape
  accepts, by the numbers in their fields, and the operands that it reads from them.
-/

namespace Rv32

/-- The layouts of the half words of RVC, by the quadrant that they are in. -/
inductive CompressedShape where
  | addi4spn
  | load (file : RegisterFile) (k : Access) (funct3 : BitVec 3)
  | store (file : RegisterFile) (k : Access) (funct3 : BitVec 3)
  | nop
  | addi
  | jal
  | li
  | addi16sp
  | lui
  | shiftRight (funct2 : BitVec 2)
  | andi
  | arithmetic (funct2 : BitVec 2)
  | j
  | branch (funct3 : BitVec 3)
  | slli
  | loadStack (file : RegisterFile) (k : Access) (funct3 : BitVec 3)
  | jr
  | mv
  | ebreak
  | jalr
  | add
  | storeStack (file : RegisterFile) (k : Access) (funct3 : BitVec 3)

def CompressedOp.shape : CompressedOp → CompressedShape
  | addi4spn => .addi4spn
  | fld => .load .f .double 0b001
  | lw => .load .x .word 0b010
  | flw => .load .f .word 0b011
  | fsd => .store .f .double 0b101
  | sw => .store .x .word 0b110
  | fsw => .store .f .word 0b111
  | nop => .nop
  | addi => .addi
  | jal => .jal
  | li => .li
  | addi16sp => .addi16sp
  | lui => .lui
  | srli => .shiftRight 0b00
  | srai => .shiftRight 0b01
  | andi => .andi
  | sub => .arithmetic 0b00
  | xor => .arithmetic 0b01
  | or => .arithmetic 0b10
  | and => .arithmetic 0b11
  | j => .j
  | beqz => .branch 0b110
  | bnez => .branch 0b111
  | slli => .slli
  | fldsp => .loadStack .f .double 0b001
  | lwsp => .loadStack .x .word 0b010
  | flwsp => .loadStack .f .word 0b011
  | jr => .jr
  | mv => .mv
  | ebreak => .ebreak
  | jalr => .jalr
  | add => .add
  | fsdsp => .storeStack .f .double 0b101
  | swsp => .storeStack .x .word 0b110
  | fswsp => .storeStack .f .word 0b111

namespace CompressedShape

/-- `sh.Assembles fmt o w` : among the half words of shape `sh`, which are of format `fmt`, the word
`w` is one with the operands `o`. -/
inductive Assembles : CompressedShape → Format → Operands → BitVec 16 → Prop
  | addi4spn (rd : BitVec 3) (n : Int) (aligned : 4 ∣ n) (range : 0 < n ∧ n ≤ 1020) :
      Assembles addi4spn .ciw { dest := [.short .x rd], src := [.sp], imm := [n] } (Half.ciw n rd)
  | load (file : RegisterFile) (k : Access) (funct3 rd rs1 : BitVec 3) (n : Int)
      (aligned : k.bytes ∣ n) (range : 0 ≤ n ∧ n < 32 * k.bytes) :
      Assembles (load file k funct3) .cl
        { dest := [.short file rd], src := [.short .x rs1], imm := [n] } (Half.cl k funct3 n rs1 rd)
  | store (file : RegisterFile) (k : Access) (funct3 rs1 rs2 : BitVec 3) (n : Int)
      (aligned : k.bytes ∣ n) (range : 0 ≤ n ∧ n < 32 * k.bytes) :
      Assembles (store file k funct3) .cs
        { src := [.short .x rs1, .short file rs2], imm := [n] } (Half.cl k funct3 n rs1 rs2)
  | nop (high : BitVec 1) (low : BitVec 5) : Assembles nop .ci {} (Half.nop high low)
  | addi (rd : BitVec 5) (n : Int) (nonzero : rd ≠ 0) (range : -32 ≤ n ∧ n ≤ 31) :
      Assembles addi .ci { dest := [.x rd], src := [.x rd], imm := [n] } (Half.small 0b000 rd n)
  | jal (n : Int) (even : 2 ∣ n) (range : -2048 ≤ n ∧ n ≤ 2046) :
      Assembles jal .cj { dest := [.ra], imm := [n] } (Half.cj 0b001 n)
  | li (rd : BitVec 5) (n : Int) (range : -32 ≤ n ∧ n ≤ 31) :
      Assembles li .ci { dest := [.x rd], imm := [n] } (Half.small 0b010 rd n)
  | addi16sp (n : Int) (aligned : 16 ∣ n) (range : -512 ≤ n ∧ n ≤ 496) (nonzero : n ≠ 0) :
      Assembles addi16sp .ci { dest := [.sp], src := [.sp], imm := [n] } (Half.addi16sp n)
  | lui (rd : BitVec 5) (n : Int) (notSp : rd ≠ 2) (aligned : 4096 ∣ n)
      (range : -131072 ≤ n ∧ n ≤ 126976) (nonzero : n ≠ 0) :
      Assembles lui .ci { dest := [.x rd], imm := [n] } (Half.lui rd n)
  | shiftRight (funct2 : BitVec 2) (rd : BitVec 3) (shamt : BitVec 5) :
      Assembles (shiftRight funct2) .cb
        { dest := [.short .x rd], src := [.short .x rd], imm := [shamt.toNat] }
        (Half.shiftRight funct2 rd shamt)
  | andi (rd : BitVec 3) (n : Int) (range : -32 ≤ n ∧ n ≤ 31) :
      Assembles andi .cb { dest := [.short .x rd], src := [.short .x rd], imm := [n] }
        (Half.andi rd n)
  | arithmetic (funct2 : BitVec 2) (rd rs2 : BitVec 3) :
      Assembles (arithmetic funct2) .ca
        { dest := [.short .x rd], src := [.short .x rd, .short .x rs2] } (Half.ca funct2 rd rs2)
  | j (n : Int) (even : 2 ∣ n) (range : -2048 ≤ n ∧ n ≤ 2046) :
      Assembles j .cj { imm := [n] } (Half.cj 0b101 n)
  | branch (funct3 rs1 : BitVec 3) (n : Int) (even : 2 ∣ n) (range : -256 ≤ n ∧ n ≤ 254) :
      Assembles (branch funct3) .cb { src := [.short .x rs1], imm := [n] } (Half.cb funct3 rs1 n)
  | slli (rd shamt : BitVec 5) :
      Assembles slli .ci { dest := [.x rd], src := [.x rd], imm := [shamt.toNat] }
        (Half.slli rd shamt)
  | loadStack (file : RegisterFile) (k : Access) (funct3 : BitVec 3) (rd : BitVec 5) (n : Int)
      (nonzero : file = .x → rd ≠ 0) (aligned : k.bytes ∣ n) (range : 0 ≤ n ∧ n < 64 * k.bytes) :
      Assembles (loadStack file k funct3) .ci
        { dest := [⟨file, rd.toNat⟩], src := [.sp], imm := [n] } (Half.loadStack k funct3 rd n)
  | jr (rs1 : BitVec 5) (nonzero : rs1 ≠ 0) :
      Assembles jr .cr { src := [.x rs1] } (Half.crSingle 0b1000 rs1)
  | mv (rd rs2 : BitVec 5) (nonzero : rs2 ≠ 0) :
      Assembles mv .cr { dest := [.x rd], src := [.x rs2] } (Half.cr 0b1000 rd rs2)
  | ebreak : Assembles ebreak .cr {} Half.ebreak
  | jalr (rs1 : BitVec 5) (nonzero : rs1 ≠ 0) :
      Assembles jalr .cr { dest := [.ra], src := [.x rs1] } (Half.crSingle 0b1001 rs1)
  | add (rd rs2 : BitVec 5) (nonzero : rs2 ≠ 0) :
      Assembles add .cr { dest := [.x rd], src := [.x rd, .x rs2] } (Half.cr 0b1001 rd rs2)
  | storeStack (file : RegisterFile) (k : Access) (funct3 : BitVec 3) (rs2 : BitVec 5) (n : Int)
      (aligned : k.bytes ∣ n) (range : 0 ≤ n ∧ n < 64 * k.bytes) :
      Assembles (storeStack file k funct3) .css
        { src := [.sp, ⟨file, rs2.toNat⟩], imm := [n] } (Half.css k funct3 rs2 n)

/-! ## Encodings of shapes -/

def encoding : CompressedShape → Encoding
  | addi4spn => CompressedOp.addi4spn.form.encoding
  | load file k funct3 => CompressedOp.loadFrom file funct3.toNat k.offset
  | store file k funct3 => CompressedOp.storeTo file funct3.toNat k.offset
  | nop => CompressedOp.nop.form.encoding
  | addi => CompressedOp.addi.form.encoding
  | jal => CompressedOp.jal.form.encoding
  | li => CompressedOp.li.form.encoding
  | addi16sp => CompressedOp.addi16sp.form.encoding
  | lui => CompressedOp.lui.form.encoding
  | shiftRight funct2 => CompressedOp.shiftRight funct2.toNat
  | andi => CompressedOp.andi.form.encoding
  | arithmetic funct2 => CompressedOp.arithmetic funct2.toNat
  | j => CompressedOp.j.form.encoding
  | branch funct3 => CompressedOp.branchIf funct3.toNat
  | slli => CompressedOp.slli.form.encoding
  | loadStack file k funct3 => CompressedOp.loadStack file funct3.toNat k.loadOffset
      (if file = .x then [CompressedOp.firstIs 0] else [])
  | jr => CompressedOp.jr.form.encoding
  | mv => CompressedOp.mv.form.encoding
  | ebreak => CompressedOp.ebreak.form.encoding
  | jalr => CompressedOp.jalr.form.encoding
  | add => CompressedOp.add.form.encoding
  | storeStack file k funct3 => CompressedOp.storeStack file funct3.toNat k.storeOffset

end CompressedShape

theorem CompressedOp.encoding_shape (op : CompressedOp) :
    (Mnemonic.compressed op).encoding = op.shape.encoding := by
  cases op <;> rfl

/-! ## What encodings read -/

namespace CompressedShape

variable {file : RegisterFile} {k : Access} {funct2 : BitVec 2} {funct3 : BitVec 3} {fmt : Format}
  {o : Operands} {w : BitVec 16}

theorem yields_addi4spn_iff : addi4spn.encoding.Yields (.half w) fmt o ↔ w.toNat % 4 = 0b00 ∧
    w.toNat / 8192 % 8 = 0b000 ∧ w.toNat / 32 % 256 ≠ 0 ∧ fmt = .ciw ∧
      o = { dest := [.short .x (w.extractLsb' 2 3)], src := [.sp]
            imm := [Immediate.stackAddress.read (w.setWidth 32)] } := by
  rw [Encoding.yields_half_iff 0b00 w rfl]
  simp (disch := decide) [encoding, CompressedOp.form, Encoding.read, Masking.read,
    Pattern.matches_half_iff, CompressedOp.sp, CompressedOp.shortSecond,
    RegisterField.read_implied, RegisterField.read_narrow, Register.short]

theorem yields_load_iff : (load file k funct3).encoding.Yields (.half w) fmt o ↔
    w.toNat % 4 = 0b00 ∧
    w.toNat / 8192 % 8 = funct3.toNat ∧ fmt = .cl ∧
      o = { dest := [.short file (w.extractLsb' 2 3)], src := [.short .x (w.extractLsb' 7 3)]
            imm := [k.offset.read (w.setWidth 32)] } := by
  rw [Encoding.yields_half_iff 0b00 w rfl]
  simp [encoding, CompressedOp.loadFrom, Encoding.read, Masking.read,
    Pattern.matches_half_funct3_iff, CompressedOp.shortFirst, CompressedOp.shortSecond,
    RegisterField.read_narrow, Register.short]

theorem yields_store_iff : (store file k funct3).encoding.Yields (.half w) fmt o ↔
    w.toNat % 4 = 0b00 ∧
    w.toNat / 8192 % 8 = funct3.toNat ∧ fmt = .cs ∧
      o = { src := [.short .x (w.extractLsb' 7 3), .short file (w.extractLsb' 2 3)]
            imm := [k.offset.read (w.setWidth 32)] } := by
  rw [Encoding.yields_half_iff 0b00 w rfl]
  simp [encoding, CompressedOp.storeTo, Encoding.read, Masking.read,
    Pattern.matches_half_funct3_iff, CompressedOp.shortFirst, CompressedOp.shortSecond,
    RegisterField.read_narrow, Register.short]

theorem yields_nop_iff : nop.encoding.Yields (.half w) fmt o ↔ w.toNat % 4 = 0b01 ∧
    (w.toNat / 8192 % 8 = 0b000 ∧ w.toNat / 128 % 32 = 0) ∧ fmt = .ci ∧ o = {} := by
  rw [Encoding.yields_half_iff 0b01 w rfl]
  simp (disch := decide) [encoding, CompressedOp.form, Encoding.read, Masking.read,
    Pattern.matches_half_iff]

theorem yields_addi_iff : addi.encoding.Yields (.half w) fmt o ↔ w.toNat % 4 = 0b01 ∧
    w.toNat / 8192 % 8 = 0b000 ∧ w.toNat / 128 % 32 ≠ 0 ∧ fmt = .ci ∧
      o = { dest := [.x (w.extractLsb' 7 5)], src := [.x (w.extractLsb' 7 5)]
            imm := [Immediate.small.read (w.setWidth 32)] } := by
  rw [Encoding.yields_half_iff 0b01 w rfl]
  simp (disch := decide) [encoding, CompressedOp.form, Encoding.read, Masking.read,
    Pattern.matches_half_iff, CompressedOp.firstIs]

theorem yields_jal_iff : jal.encoding.Yields (.half w) fmt o ↔ w.toNat % 4 = 0b01 ∧
    w.toNat / 8192 % 8 = 0b001 ∧ fmt = .cj ∧
      o = { dest := [.ra], imm := [Immediate.jumpOffset.read (w.setWidth 32)] } := by
  rw [Encoding.yields_half_iff 0b01 w rfl]
  simp (disch := decide) [encoding, CompressedOp.form, Encoding.read, Masking.read,
    Pattern.matches_half_iff, CompressedOp.ra, RegisterField.read_implied]

theorem yields_li_iff : li.encoding.Yields (.half w) fmt o ↔ w.toNat % 4 = 0b01 ∧
    w.toNat / 8192 % 8 = 0b010 ∧ fmt = .ci ∧
      o = { dest := [.x (w.extractLsb' 7 5)]
            imm := [Immediate.small.read (w.setWidth 32)] } := by
  rw [Encoding.yields_half_iff 0b01 w rfl]
  simp (disch := decide) [encoding, CompressedOp.form, Encoding.read, Masking.read,
    Pattern.matches_half_iff]

theorem yields_addi16sp_iff : addi16sp.encoding.Yields (.half w) fmt o ↔ w.toNat % 4 = 0b01 ∧
    (w.toNat / 8192 % 8 = 0b011 ∧ w.toNat / 128 % 32 = 2) ∧
      ¬ (w.toNat / 4096 % 2 = 0 ∧ w.toNat / 4 % 32 = 0) ∧ fmt = .ci ∧
        o = { dest := [.sp], src := [.sp]
              imm := [Immediate.stackStep.read (w.setWidth 32)] } := by
  rw [Encoding.yields_half_iff 0b01 w rfl]
  simp (disch := decide) [encoding, CompressedOp.form, Encoding.read, Masking.read,
    Pattern.matches_half_iff, CompressedOp.smallIsZero, CompressedOp.sp,
    RegisterField.read_implied]

theorem yields_lui_iff : lui.encoding.Yields (.half w) fmt o ↔ w.toNat % 4 = 0b01 ∧
    w.toNat / 8192 % 8 = 0b011 ∧ (w.toNat / 128 % 32 ≠ 2 ∧
      ¬ (w.toNat / 4096 % 2 = 0 ∧ w.toNat / 4 % 32 = 0)) ∧ fmt = .ci ∧
        o = { dest := [.x (w.extractLsb' 7 5)]
              imm := [Immediate.smallUpper.read (w.setWidth 32)] } := by
  rw [Encoding.yields_half_iff 0b01 w rfl]
  simp (disch := decide) [encoding, CompressedOp.form, Encoding.read, Masking.read,
    Pattern.matches_half_iff, CompressedOp.smallIsZero, CompressedOp.firstIs]

theorem yields_shiftRight_iff : (shiftRight funct2).encoding.Yields (.half w) fmt o ↔
    w.toNat % 4 = 0b01 ∧
    (w.toNat / 8192 % 8 = 0b100 ∧ w.toNat / 4096 % 2 = 0 ∧ w.toNat / 1024 % 4 = funct2.toNat) ∧
      fmt = .cb ∧ o = { dest := [.short .x (w.extractLsb' 7 3)]
                        src := [.short .x (w.extractLsb' 7 3)]
                        imm := [(w.extractLsb' 2 5).toNat] } := by
  have hfields : Pattern.AreFields [(15, 13, 0b100), (12, 12, 0), (11, 10, funct2.toNat)] := by
    revert funct2
    decide
  have hshift : CompressedOp.shift.read (w.setWidth 32) = (w.extractLsb' 2 5).toNat := by
    rw [← Half.extractLsb'_setWidth]
    exact Immediate.read_unsigned _ rfl (by decide)
  rw [Encoding.yields_half_iff 0b01 w rfl]
  simp [encoding, CompressedOp.shiftRight, Encoding.read, Masking.read,
    Pattern.matches_half_iff hfields, CompressedOp.shortFirst, RegisterField.read_narrow,
    Register.short, hshift]

theorem yields_andi_iff : andi.encoding.Yields (.half w) fmt o ↔ w.toNat % 4 = 0b01 ∧
    (w.toNat / 8192 % 8 = 0b100 ∧ w.toNat / 1024 % 4 = 0b10) ∧ fmt = .cb ∧
      o = { dest := [.short .x (w.extractLsb' 7 3)], src := [.short .x (w.extractLsb' 7 3)]
            imm := [Immediate.small.read (w.setWidth 32)] } := by
  rw [Encoding.yields_half_iff 0b01 w rfl]
  simp (disch := decide) [encoding, CompressedOp.form, Encoding.read, Masking.read,
    Pattern.matches_half_iff, CompressedOp.shortFirst, RegisterField.read_narrow, Register.short]

theorem yields_arithmetic_iff : (arithmetic funct2).encoding.Yields (.half w) fmt o ↔
    w.toNat % 4 = 0b01 ∧
    (w.toNat / 8192 % 8 = 0b100 ∧ w.toNat / 4096 % 2 = 0 ∧ w.toNat / 1024 % 4 = 0b11 ∧
      w.toNat / 32 % 4 = funct2.toNat) ∧ fmt = .ca ∧
        o = { dest := [.short .x (w.extractLsb' 7 3)]
              src := [.short .x (w.extractLsb' 7 3), .short .x (w.extractLsb' 2 3)] } := by
  have hfields : Pattern.AreFields
      [(15, 13, 0b100), (12, 12, 0), (11, 10, 0b11), (6, 5, funct2.toNat)] := by
    revert funct2
    decide
  rw [Encoding.yields_half_iff 0b01 w rfl]
  simp [encoding, CompressedOp.arithmetic, Encoding.read, Masking.read,
    Pattern.matches_half_iff hfields, CompressedOp.shortFirst, CompressedOp.shortSecond,
    RegisterField.read_narrow, Register.short]

theorem yields_j_iff : j.encoding.Yields (.half w) fmt o ↔ w.toNat % 4 = 0b01 ∧
    w.toNat / 8192 % 8 = 0b101 ∧ fmt = .cj ∧
      o = { imm := [Immediate.jumpOffset.read (w.setWidth 32)] } := by
  rw [Encoding.yields_half_iff 0b01 w rfl]
  simp (disch := decide) [encoding, CompressedOp.form, Encoding.read, Masking.read,
    Pattern.matches_half_iff]

theorem yields_branch_iff : (branch funct3).encoding.Yields (.half w) fmt o ↔ w.toNat % 4 = 0b01 ∧
    w.toNat / 8192 % 8 = funct3.toNat ∧ fmt = .cb ∧
      o = { src := [.short .x (w.extractLsb' 7 3)]
            imm := [Immediate.branchOffset.read (w.setWidth 32)] } := by
  rw [Encoding.yields_half_iff 0b01 w rfl]
  simp [encoding, CompressedOp.branchIf, Encoding.read, Masking.read,
    Pattern.matches_half_funct3_iff, CompressedOp.shortFirst, RegisterField.read_narrow,
    Register.short]

theorem yields_slli_iff : slli.encoding.Yields (.half w) fmt o ↔ w.toNat % 4 = 0b10 ∧
    (w.toNat / 8192 % 8 = 0b000 ∧ w.toNat / 4096 % 2 = 0) ∧ fmt = .ci ∧
      o = { dest := [.x (w.extractLsb' 7 5)], src := [.x (w.extractLsb' 7 5)]
            imm := [(w.extractLsb' 2 5).toNat] } := by
  have hshift : CompressedOp.shift.read (w.setWidth 32) = (w.extractLsb' 2 5).toNat := by
    rw [← Half.extractLsb'_setWidth]
    exact Immediate.read_unsigned _ rfl (by decide)
  rw [Encoding.yields_half_iff 0b10 w rfl]
  simp (disch := decide) [encoding, CompressedOp.form, Encoding.read, Masking.read,
    Pattern.matches_half_iff, hshift]

theorem yields_loadStack_iff : (loadStack file k funct3).encoding.Yields (.half w) fmt o ↔
    w.toNat % 4 = 0b10 ∧
    w.toNat / 8192 % 8 = funct3.toNat ∧ (file = .x → w.toNat / 128 % 32 ≠ 0) ∧ fmt = .ci ∧
      o = { dest := [⟨file, (w.extractLsb' 7 5).toNat⟩], src := [.sp]
            imm := [k.loadOffset.read (w.setWidth 32)] } := by
  rw [Encoding.yields_half_iff 0b10 w rfl]
  by_cases hx : file = .x <;>
    simp (disch := decide) [encoding, CompressedOp.loadStack, Encoding.read, Masking.read,
      Pattern.matches_half_iff, Pattern.matches_half_funct3_iff, CompressedOp.firstIs,
      CompressedOp.sp, RegisterField.read_implied, RegisterField.read_wide, hx]

theorem yields_jr_iff : jr.encoding.Yields (.half w) fmt o ↔ w.toNat % 4 = 0b10 ∧
    (w.toNat / 4096 % 16 = 0b1000 ∧ w.toNat / 4 % 32 = 0) ∧ w.toNat / 128 % 32 ≠ 0 ∧
      fmt = .cr ∧ o = { src := [.x (w.extractLsb' 7 5)] } := by
  rw [Encoding.yields_half_iff 0b10 w rfl]
  simp (disch := decide) [encoding, CompressedOp.form, Encoding.read, Masking.read,
    Pattern.matches_half_iff, CompressedOp.firstIs]

theorem yields_mv_iff : mv.encoding.Yields (.half w) fmt o ↔ w.toNat % 4 = 0b10 ∧
    w.toNat / 4096 % 16 = 0b1000 ∧ w.toNat / 4 % 32 ≠ 0 ∧ fmt = .cr ∧
      o = { dest := [.x (w.extractLsb' 7 5)], src := [.x (w.extractLsb' 2 5)] } := by
  rw [Encoding.yields_half_iff 0b10 w rfl]
  simp (disch := decide) [encoding, CompressedOp.form, Encoding.read, Masking.read,
    Pattern.matches_half_iff, CompressedOp.secondIsZero, CompressedOp.second,
    RegisterField.read_wide, Register.x]

theorem yields_ebreak_iff : ebreak.encoding.Yields (.half w) fmt o ↔ w.toNat % 4 = 0b10 ∧
    (w.toNat / 4096 % 16 = 0b1001 ∧ w.toNat / 128 % 32 = 0 ∧ w.toNat / 4 % 32 = 0) ∧
      fmt = .cr ∧ o = {} := by
  rw [Encoding.yields_half_iff 0b10 w rfl]
  simp (disch := decide) [encoding, CompressedOp.form, Encoding.read, Masking.read,
    Pattern.matches_half_iff]

theorem yields_jalr_iff : jalr.encoding.Yields (.half w) fmt o ↔ w.toNat % 4 = 0b10 ∧
    (w.toNat / 4096 % 16 = 0b1001 ∧ w.toNat / 4 % 32 = 0) ∧ w.toNat / 128 % 32 ≠ 0 ∧
      fmt = .cr ∧ o = { dest := [.ra], src := [.x (w.extractLsb' 7 5)] } := by
  rw [Encoding.yields_half_iff 0b10 w rfl]
  simp (disch := decide) [encoding, CompressedOp.form, Encoding.read, Masking.read,
    Pattern.matches_half_iff, CompressedOp.firstIs, CompressedOp.ra, RegisterField.read_implied]

theorem yields_add_iff : add.encoding.Yields (.half w) fmt o ↔ w.toNat % 4 = 0b10 ∧
    w.toNat / 4096 % 16 = 0b1001 ∧ w.toNat / 4 % 32 ≠ 0 ∧ fmt = .cr ∧
      o = { dest := [.x (w.extractLsb' 7 5)]
            src := [.x (w.extractLsb' 7 5), .x (w.extractLsb' 2 5)] } := by
  rw [Encoding.yields_half_iff 0b10 w rfl]
  simp (disch := decide) [encoding, CompressedOp.form, Encoding.read, Masking.read,
    Pattern.matches_half_iff, CompressedOp.secondIsZero, CompressedOp.second,
    RegisterField.read_wide, Register.x]

theorem yields_storeStack_iff : (storeStack file k funct3).encoding.Yields (.half w) fmt o ↔
    w.toNat % 4 = 0b10 ∧
    w.toNat / 8192 % 8 = funct3.toNat ∧ fmt = .css ∧
      o = { src := [.sp, ⟨file, (w.extractLsb' 2 5).toNat⟩]
            imm := [k.storeOffset.read (w.setWidth 32)] } := by
  rw [Encoding.yields_half_iff 0b10 w rfl]
  simp [encoding, CompressedOp.storeStack, Encoding.read, Masking.read,
    Pattern.matches_half_funct3_iff, CompressedOp.sp, CompressedOp.second,
    RegisterField.read_implied, RegisterField.read_wide]

end CompressedShape

end Rv32
