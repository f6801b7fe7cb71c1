import Rv32.Proofs.Decode
import Rv32.Proofs.Fields

/-!
# Words of the vector set

The words of RVV as the manual lists them.

* `VectorOperand`, `Stride` : the operands that arithmetic and memory operations take in more than one
  form, with the bits that hold them;
* `VectorShape` : what the words of an operation look like, with the numbers that select the
  operation; `VectorOp.shape` lists them;
* `VectorShape.Assembles` : the words of a shape, with the operands and the mask that stand in them.
-/

namespace Rv32

/-- The mask that the bit `vm` chooses. -/
def Mask.ofBit (vm : BitVec 1) : Mask := if vm = 1 then .unmasked else .v0True

/-! ## Operands of several forms -/

/-- The forms of the second operand of arithmetic. -/
inductive OperandKind where
  | vector
  | register
  | signed
  | unsigned
deriving DecidableEq

/-- A second operand, in bits 19 to 15. -/
inductive VectorOperand : OperandKind → Type where
  | vector (vs1 : BitVec 5) : VectorOperand .vector
  | register (rs1 : BitVec 5) : VectorOperand .register
  | signed (n : Int) (range : -16 ≤ n ∧ n ≤ 15) : VectorOperand .signed
  | unsigned (n : BitVec 5) : VectorOperand .unsigned

namespace VectorOperand

variable {k : OperandKind}

def bits : VectorOperand k → BitVec 5
  | vector vs1 => vs1
  | register rs1 => rs1
  | signed n _ => BitVec.ofInt 5 n
  | unsigned n => n

def src : VectorOperand k → List Register
  | vector vs1 => [.v vs1]
  | register rs1 => [.x rs1]
  | signed _ _ | unsigned _ => []

def imm : VectorOperand k → List Int
  | vector _ | register _ => []
  | signed n _ => [n]
  | unsigned n => [n.toNat]

end VectorOperand

/-- The ways in which elements lie in memory. -/
inductive Addressing where
  | unit
  | strided
deriving DecidableEq

def Addressing.mop : Addressing → BitVec 2
  | unit => 0b00
  | strided => 0b10

/-- The distance of elements in memory, in bits 24 to 20: their own size, or what a register
holds. -/
inductive Stride : Addressing → Type where
  | unit : Stride .unit
  | register (rs2 : BitVec 5) : Stride .strided

namespace Stride

variable {a : Addressing}

def bits : Stride a → BitVec 5
  | unit => 0
  | register rs2 => rs2

def src : Stride a → List Register
  | unit => []
  | register rs2 => [.x rs2]

end Stride

/-! ## Words -/

namespace VType

/-- A word of OP-V other than a configuration. -/
def arith (funct6 : BitVec 6) (vm : BitVec 1) (second first : BitVec 5) (funct3 : BitVec 3)
    (vd : BitVec 5) : BitVec 32 :=
  funct6 ++ vm ++ second ++ first ++ funct3 ++ vd ++ 0b1010111#7

/-- A word of a load or store: one segment, no extended width, and a mode. -/
def memory (mop : BitVec 2) (vm : BitVec 1) (second first : BitVec 5) (width : BitVec 3)
    (vd : BitVec 5) (opcode : BitVec 7) : BitVec 32 :=
  0b000#3 ++ 0b0#1 ++ mop ++ vm ++ second ++ first ++ width ++ vd ++ opcode

def vsetvli (vtype : BitVec 11) (rs1 rd : BitVec 5) : BitVec 32 :=
  0b0#1 ++ vtype ++ rs1 ++ 0b111#3 ++ rd ++ 0b1010111#7

def vsetivli (vtype : BitVec 10) (uimm rd : BitVec 5) : BitVec 32 :=
  0b11#2 ++ vtype ++ uimm ++ 0b111#3 ++ rd ++ 0b1010111#7

def vsetvl (rs2 rs1 rd : BitVec 5) : BitVec 32 :=
  0b1000000#7 ++ rs2 ++ rs1 ++ 0b111#3 ++ rd ++ 0b1010111#7

end VType

/-! ## Shapes -/

/-- The layouts of the words of RVV. -/
inductive VectorShape where
  | vsetvli
  | vsetivli
  | vsetvl
  | load (a : Addressing) (width : BitVec 3)
  | store (a : Addressing) (width : BitVec 3)
  | arith (funct6 : BitVec 6) (funct3 : BitVec 3) (k : OperandKind)
  | merge (funct3 : BitVec 3) (k : OperandKind)
  | move (funct3 : BitVec 3) (k : OperandKind)
deriving DecidableEq

def VectorOp.shape : VectorOp → VectorShape
  | vsetvli => .vsetvli
  | vsetivli => .vsetivli
  | vsetvl => .vsetvl
  | vle8 => .load .unit 0b000
  | vle16 => .load .unit 0b101
  | vle32 => .load .unit 0b110
  | vle64 => .load .unit 0b111
  | vlse8 => .load .strided 0b000
  | vlse16 => .load .strided 0b101
  | vlse32 => .load .strided 0b110
  | vlse64 => .load .strided 0b111
  | vse8 => .store .unit 0b000
  | vse16 => .store .unit 0b101
  | vse32 => .store .unit 0b110
  | vse64 => .store .unit 0b111
  | vsse8 => .store .strided 0b000
  | vsse16 => .store .strided 0b101
  | vsse32 => .store .strided 0b110
  | vsse64 => .store .strided 0b111
  | vaddVv => .arith 0b000000 0b000 .vector
  | vaddVx => .arith 0b000000 0b100 .register
  | vaddVi => .arith 0b000000 0b011 .signed
  | vsubVv => .arith 0b000010 0b000 .vector
  | vsubVx => .arith 0b000010 0b100 .register
  | vrsubVx => .arith 0b000011 0b100 .register
  | vrsubVi => .arith 0b000011 0b011 .signed
  | vminuVv => .arith 0b000100 0b000 .vector
  | vminuVx => .arith 0b000100 0b100 .register
  | vminVv => .arith 0b000101 0b000 .vector
  | vminVx => .arith 0b000101 0b100 .register
  | vmaxuVv => .arith 0b000110 0b000 .vector
  | vmaxuVx => .arith 0b000110 0b100 .register
  | vmaxVv => .arith 0b000111 0b000 .vector
  | vmaxVx => .arith 0b000111 0b100 .register
  | vandVv => .arith 0b001001 0b000 .vector
  | vandVx => .arith 0b001001 0b100 .register
  | vandVi => .arith 0b001001 0b011 .signed
  | vorVv => .arith 0b001010 0b000 .vector
  | vorVx => .arith 0b001010 0b100 .register
  | vorVi => .arith 0b001010 0b011 .signed
  | vxorVv => .arith 0b001011 0b000 .vector
  | vxorVx => .arith 0b001011 0b100 .register
  | vxorVi => .arith 0b001011 0b011 .signed
  | vmergeVvm => .merge 0b000 .vector
  | vmergeVxm => .merge 0b100 .register
  | vmergeVim => .merge 0b011 .signed
  | vmvVV => .move 0b000 .vector
  | vmvVX => .move 0b100 .register
  | vmvVI => .move 0b011 .signed
  | vmseqVv => .arith 0b011000 0b000 .vector
  | vmseqVx => .arith 0b011000 0b100 .register
  | vmseqVi => .arith 0b011000 0b011 .signed
  | vmsneVv => .arith 0b011001 0b000 .vector
  | vmsneVx => .arith 0b011001 0b100 .register
  | vmsneVi => .arith 0b011001 0b011 .signed
  | vmsltuVv => .arith 0b011010 0b000 .vector
  | vmsltuVx => .arith 0b011010 0b100 .register
  | vmsltVv => .arith 0b011011 0b000 .vector
  | vmsltVx => .arith 0b011011 0b100 .register
  | vmsleuVv => .arith 0b011100 0b000 .vector
  | vmsleuVx => .arith 0b011100 0b100 .register
  | vmsleuVi => .arith 0b011100 0b011 .signed
  | vmsleVv => .arith 0b011101 0b000 .vector
  | vmsleVx => .arith 0b011101 0b100 .register
  | vmsleVi => .arith 0b011101 0b011 .signed
  | vmsgtuVx => .arith 0b011110 0b100 .register
  | vmsgtuVi => .arith 0b011110 0b011 .signed
  | vmsgtVx => .arith 0b011111 0b100 .register
  | vmsgtVi => .arith 0b011111 0b011 .signed
  | vsllVv => .arith 0b100101 0b000 .vector
  | vsllVx => .arith 0b100101 0b100 .register
  | vsllVi => .arith 0b100101 0b011 .unsigned
  | vsrlVv => .arith 0b101000 0b000 .vector
  | vsrlVx => .arith 0b101000 0b100 .register
  | vsrlVi => .arith 0b101000 0b011 .unsigned
  | vsraVv => .arith 0b101001 0b000 .vector
  | vsraVx => .arith 0b101001 0b100 .register
  | vsraVi => .arith 0b101001 0b011 .unsigned
  | vmulVv => .arith 0b100101 0b010 .vector
  | vmulVx => .arith 0b100101 0b110 .register
  | vmulhVv => .arith 0b100111 0b010 .vector
  | vmulhVx => .arith 0b100111 0b110 .register
  | vmulhuVv => .arith 0b100100 0b010 .vector
  | vmulhuVx => .arith 0b100100 0b110 .register
  | vmulhsuVv => .arith 0b100110 0b010 .vector
  | vmulhsuVx => .arith 0b100110 0b110 .register
  | vdivVv => .arith 0b100001 0b010 .vector
  | vdivVx => .arith 0b100001 0b110 .register
  | vdivuVv => .arith 0b100000 0b010 .vector
  | vdivuVx => .arith 0b100000 0b110 .register
  | vremVv => .arith 0b100011 0b010 .vector
  | vremVx => .arith 0b100011 0b110 .register
  | vremuVv => .arith 0b100010 0b010 .vector
  | vremuVx => .arith 0b100010 0b110 .register

namespace VectorShape

/-- `sh.Assembles fmt o w` : among the words of shape `sh`, which are of format `fmt`, the word `w`
is one with the operands `o`. -/
inductive Assembles : VectorShape → Format → Operands → BitVec 32 → Prop
  | vsetvli (rd rs1 : BitVec 5) (vtype : BitVec 11) :
      Assembles vsetvli .v { dest := [.x rd], src := [.x rs1], imm := [vtype.toNat] }
        (VType.vsetvli vtype rs1 rd)
  | vsetivli (rd uimm : BitVec 5) (vtype : BitVec 10) :
      Assembles vsetivli .v { dest := [.x rd], imm := [uimm.toNat, vtype.toNat] }
        (VType.vsetivli vtype uimm rd)
  | vsetvl (rd rs1 rs2 : BitVec 5) :
      Assembles vsetvl .v { dest := [.x rd], src := [.x rs1, .x rs2] } (VType.vsetvl rs2 rs1 rd)
  | load (a : Addressing) (width : BitVec 3) (vd rs1 : BitVec 5) (stride : Stride a)
      (vm : BitVec 1) :
      Assembles (load a width) .vl
        { dest := [.v vd], src := .x rs1 :: stride.src, mask := some (.ofBit vm) }
        (VType.memory a.mop vm stride.bits rs1 width vd 0b0000111)
  | store (a : Addressing) (width : BitVec 3) (vs3 rs1 : BitVec 5) (stride : Stride a)
      (vm : BitVec 1) :
      Assembles (store a width) .vs
        { src := .v vs3 :: .x rs1 :: stride.src, mask := some (.ofBit vm) }
        (VType.memory a.mop vm stride.bits rs1 width vs3 0b0100111)
  | arith (funct6 : BitVec 6) (funct3 : BitVec 3) (k : OperandKind) (vd vs2 : BitVec 5)
      (operand : VectorOperand k) (vm : BitVec 1) :
      Assembles (arith funct6 funct3 k) .v
        { dest := [.v vd], src := .v vs2 :: operand.src, imm := operand.imm
          mask := some (.ofBit vm) }
        (VType.arith funct6 vm vs2 operand.bits funct3 vd)
  | merge (funct3 : BitVec 3) (k : OperandKind) (vd vs2 : BitVec 5) (operand : VectorOperand k) :
      Assembles (merge funct3 k) .v
        { dest := [.v vd], src := .v vs2 :: operand.src, imm := operand.imm, mask := some .v0True }
        (VType.arith 0b010111 0 vs2 operand.bits funct3 vd)
  | move (funct3 : BitVec 3) (k : OperandKind) (vd : BitVec 5) (operand : VectorOperand k) :
      Assembles (move funct3 k) .v
        { dest := [.v vd], src := operand.src, imm := operand.imm, mask := some .unmasked }
        (VType.arith 0b010111 1 0 operand.bits funct3 vd)

end VectorShape

/-! ## Encodings of shapes -/

namespace OperandKind

def srcFields : OperandKind → List RegisterField
  | vector => [.vs1]
  | register => [.rs1]
  | signed | unsigned => []

def immFields : OperandKind → List Immediate
  | vector | register => []
  | signed => [.simm]
  | unsigned => [.uimm]

end OperandKind

namespace Addressing

def pattern : Addressing → Nat → Pattern
  | unit => VectorOp.unit
  | strided => VectorOp.strided

def srcFields : Addressing → List RegisterField
  | unit => []
  | strided => [.rs2]

end Addressing

namespace VectorShape

def encoding : VectorShape → Encoding
  | vsetvli => VectorOp.vsetvli.form.encoding
  | vsetivli => VectorOp.vsetivli.form.encoding
  | vsetvl => VectorOp.vsetvl.form.encoding
  | load a width =>
    { opcode := .loadFp, format := .vl, fixed := a.pattern width.toNat
      dest := [.vd], src := .rs1 :: a.srcFields, masking := .chosen }
  | store a width =>
    { opcode := .storeFp, format := .vs, fixed := a.pattern width.toNat
      src := .vd :: .rs1 :: a.srcFields, masking := .chosen }
  | arith funct6 funct3 k =>
    VectorOp.arith funct6.toNat funct3.toNat (.vs2 :: k.srcFields) k.immFields
  | merge funct3 k => VectorOp.merge funct3.toNat (.vs2 :: k.srcFields) k.immFields
  | move funct3 k => VectorOp.move funct3.toNat k.srcFields k.immFields

end VectorShape

theorem VectorOp.encoding_shape (op : VectorOp) :
    (Mnemonic.vector op).encoding = op.shape.encoding := by
  cases op <;> rfl

end Rv32
