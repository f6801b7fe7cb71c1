import Rv32.Proofs.Decode
import Rv32.Proofs.Fields

/-!
# Words of the base set and of multiplication

The words of RV32I and RV32M as the manual lists them.

* `IntegerShape` : what the words of an operation look like, with the opcode and the `funct` numbers
  that select the operation; `IntegerOp.shape` and `MultiplyOp.shape` list them;
* `IntegerShape.Assembles` : the words of a shape, with the operands that stand in them;
* `IntegerShape.encoding` : the encoding that has these words.
-/

namespace Rv32

/-- A word with the fields of the I format, whatever its upper twelve bits are used for. -/
def IType.place (imm : BitVec 12) (rs1 : BitVec 5) (funct3 : BitVec 3) (rd : BitVec 5)
    (opcode : BitVec 7) : BitVec 32 :=
  imm ++ rs1 ++ funct3 ++ rd ++ opcode

/-- The layouts of the words of RV32I and RV32M. -/
inductive IntegerShape where
  | upper (opcode : BitVec 7)
  | jump
  | branch (funct3 : BitVec 3)
  | immediate (opcode : BitVec 7) (funct3 : BitVec 3)
  | store (funct3 : BitVec 3)
  | shift (funct7 : BitVec 7) (funct3 : BitVec 3)
  | registers (funct7 : BitVec 7) (funct3 : BitVec 3)
  | fence
  | fenceI
  | environment (code : BitVec 12)
  | csr (funct3 : BitVec 3)
  | csrImmediate (funct3 : BitVec 3)

def IntegerOp.shape : IntegerOp → IntegerShape
  | lui => .upper 0b0110111
  | auipc => .upper 0b0010111
  | jal => .jump
  | jalr => .immediate 0b1100111 0b000
  | beq => .branch 0b000
  | bne => .branch 0b001
  | blt => .branch 0b100
  | bge => .branch 0b101
  | bltu => .branch 0b110
  | bgeu => .branch 0b111
  | lb => .immediate 0b0000011 0b000
  | lh => .immediate 0b0000011 0b001
  | lw => .immediate 0b0000011 0b010
  | lbu => .immediate 0b0000011 0b100
  | lhu => .immediate 0b0000011 0b101
  | sb => .store 0b000
  | sh => .store 0b001
  | sw => .store 0b010
  | addi => .immediate 0b0010011 0b000
  | slti => .immediate 0b0010011 0b010
  | sltiu => .immediate 0b0010011 0b011
  | xori => .immediate 0b0010011 0b100
  | ori => .immediate 0b0010011 0b110
  | andi => .immediate 0b0010011 0b111
  | slli => .shift 0b0000000 0b001
  | srli => .shift 0b0000000 0b101
  | srai => .shift 0b0100000 0b101
  | add => .registers 0b0000000 0b000
  | sub => .registers 0b0100000 0b000
  | sll => .registers 0b0000000 0b001
  | slt => .registers 0b0000000 0b010
  | sltu => .registers 0b0000000 0b011
  | xor => .registers 0b0000000 0b100
  | srl => .registers 0b0000000 0b101
  | sra => .registers 0b0100000 0b101
  | or => .registers 0b0000000 0b110
  | and => .registers 0b0000000 0b111
  | fence => .fence
  | fenceI => .fenceI
  | ecall => .environment 0
  | ebreak => .environment 1
  | csrrw => .csr 0b001
  | csrrs => .csr 0b010
  | csrrc => .csr 0b011
  | csrrwi => .csrImmediate 0b101
  | csrrsi => .csrImmediate 0b110
  | csrrci => .csrImmediate 0b111

def MultiplyOp.shape : MultiplyOp → IntegerShape
  | mul => .registers 0b0000001 0b000
  | mulh => .registers 0b0000001 0b001
  | mulhsu => .registers 0b0000001 0b010
  | mulhu => .registers 0b0000001 0b011
  | div => .registers 0b0000001 0b100
  | divu => .registers 0b0000001 0b101
  | rem => .registers 0b0000001 0b110
  | remu => .registers 0b0000001 0b111

/-- The shape of an operation of RV32I or RV32M. -/
def Mnemonic.integerShape? : Mnemonic → Option IntegerShape
  | integer op => some op.shape
  | multiply op => some op.shape
  | compressed _ | vector _ => none

/-- The opcodes of RV32I. Those of RV32M are among them. -/
def baseOpcodes : List (BitVec 7) :=
  [0b0000011, 0b0001111, 0b0010011, 0b0010111, 0b0100011, 0b0110011, 0b0110111, 0b1100011,
   0b1100111, 0b1101111, 0b1110011]

namespace IntegerShape

/-- `sh.Assembles fmt o w` : among the words of shape `sh`, which are of format `fmt`, the word `w`
is one with the operands `o`. Words of fences have fields that are not operands, with any bits. -/
inductive Assembles : IntegerShape → Format → Operands → BitVec 32 → Prop
  | upper (opcode : BitVec 7) (rd : BitVec 5) (n : Int) (aligned : 4096 ∣ n)
      (range : -2147483648 ≤ n ∧ n ≤ 2147483647) :
      Assembles (upper opcode) .u { dest := [.x rd], imm := [n] } (UType.write ⟨rd, n⟩ opcode)
  | jump (rd : BitVec 5) (n : Int) (even : 2 ∣ n) (range : -1048576 ≤ n ∧ n ≤ 1048574) :
      Assembles jump .j { dest := [.x rd], imm := [n] } (JType.write ⟨rd, n⟩ 0b1101111)
  | branch (funct3 : BitVec 3) (rs1 rs2 : BitVec 5) (n : Int) (even : 2 ∣ n)
      (range : -4096 ≤ n ∧ n ≤ 4094) :
      Assembles (branch funct3) .b { src := [.x rs1, .x rs2], imm := [n] }
        (BType.write ⟨rs1, rs2, funct3, n⟩ 0b1100011)
  | immediate (opcode : BitVec 7) (funct3 : BitVec 3) (rd rs1 : BitVec 5) (n : Int)
      (range : -2048 ≤ n ∧ n ≤ 2047) :
      Assembles (immediate opcode funct3) .i { dest := [.x rd], src := [.x rs1], imm := [n] }
        (IType.write ⟨rd, rs1, funct3, n⟩ opcode)
  | store (funct3 : BitVec 3) (rs1 rs2 : BitVec 5) (n : Int) (range : -2048 ≤ n ∧ n ≤ 2047) :
      Assembles (store funct3) .s { src := [.x rs1, .x rs2], imm := [n] }
        (SType.write ⟨rs1, rs2, funct3, n⟩ 0b0100011)
  | shift (funct7 : BitVec 7) (funct3 : BitVec 3) (rd rs1 shamt : BitVec 5) :
      Assembles (shift funct7 funct3) .i { dest := [.x rd], src := [.x rs1], imm := [shamt.toNat] }
        (RType.write ⟨rd, rs1, shamt, funct3, funct7⟩ 0b0010011)
  | registers (funct7 : BitVec 7) (funct3 : BitVec 3) (rd rs1 rs2 : BitVec 5) :
      Assembles (registers funct7 funct3) .r { dest := [.x rd], src := [.x rs1, .x rs2] }
        (RType.write ⟨rd, rs1, rs2, funct3, funct7⟩ 0b0110011)
  | fence (pred succ : BitVec 4) (fm : BitVec 4) (rs1 rd : BitVec 5) :
      Assembles fence .i { imm := [pred.toNat, succ.toNat] }
        (IType.place (fm ++ pred ++ succ) rs1 0b000 rd 0b0001111)
  | fenceI (imm : BitVec 12) (rs1 rd : BitVec 5) :
      Assembles fenceI .i {} (IType.place imm rs1 0b001 rd 0b0001111)
  | environment (code : BitVec 12) :
      Assembles (environment code) .i {} (IType.place code 0 0b000 0 0b1110011)
  | csr (funct3 : BitVec 3) (rd rs1 : BitVec 5) (address : BitVec 12) :
      Assembles (csr funct3) .i { dest := [.x rd], src := [.x rs1], imm := [address.toNat] }
        (IType.place address rs1 funct3 rd 0b1110011)
  | csrImmediate (funct3 : BitVec 3) (rd uimm : BitVec 5) (address : BitVec 12) :
      Assembles (csrImmediate funct3) .i { dest := [.x rd], imm := [address.toNat, uimm.toNat] }
        (IType.place address uimm funct3 rd 0b1110011)

/-! ## Encodings of shapes -/

def encoding : IntegerShape → Encoding
  | upper opcode => IntegerOp.upperImmediate (.major opcode.toNat)
  | jump => IntegerOp.jal.form.encoding
  | branch funct3 => IntegerOp.branchIf funct3.toNat
  | immediate opcode funct3 => IntegerOp.registerImmediate (.major opcode.toNat) funct3.toNat
  | store funct3 => IntegerOp.storeTo funct3.toNat
  | shift funct7 funct3 => IntegerOp.shiftImmediate funct7.toNat funct3.toNat
  | registers funct7 funct3 => IntegerOp.registers funct7.toNat funct3.toNat
  | fence => IntegerOp.fence.form.encoding
  | fenceI => IntegerOp.fenceI.form.encoding
  | environment code => IntegerOp.environment (IType.place code 0 0 0 0b1110011)
  | csr funct3 => IntegerOp.csrRegister funct3.toNat
  | csrImmediate funct3 => IntegerOp.csrImmediate funct3.toNat

end IntegerShape

theorem IntegerOp.encoding_shape (op : IntegerOp) : op.form.encoding = op.shape.encoding := by
  cases op <;> rfl

theorem MultiplyOp.encoding_shape (op : MultiplyOp) : op.form.encoding = op.shape.encoding := by
  cases op <;> rfl

theorem Mnemonic.encoding_of_integerShape? {m : Mnemonic} {sh : IntegerShape}
    (h : m.integerShape? = some sh) : m.encoding = sh.encoding := by
  cases m with
  | integer op => cases h; exact op.encoding_shape
  | multiply op => cases h; exact op.encoding_shape
  | compressed op => cases h
  | vector op => cases h

end Rv32
