import Rv32.Immediate

/-!
# Fields of the formats

The fields that a format sees in a word, whatever instruction the word is. For each of the six base
formats `read` takes the fields out of a word, and `write` puts them together with an opcode in the
order in which they stand from the top bit down. `HalfFields` are the fields of the compressed
formats.
-/

namespace Rv32

/-! ## Base formats -/

structure RType where
  rd : BitVec 5
  rs1 : BitVec 5
  rs2 : BitVec 5
  funct3 : BitVec 3
  funct7 : BitVec 7
deriving DecidableEq

def RType.read (w : BitVec 32) : RType where
  rd := w.extractLsb 11 7
  rs1 := w.extractLsb 19 15
  rs2 := w.extractLsb 24 20
  funct3 := w.extractLsb 14 12
  funct7 := w.extractLsb 31 25

def RType.write (f : RType) (opcode : BitVec 7) : BitVec 32 :=
  f.funct7 ++ f.rs2 ++ f.rs1 ++ f.funct3 ++ f.rd ++ opcode

structure IType where
  rd : BitVec 5
  rs1 : BitVec 5
  funct3 : BitVec 3
  imm : Int
deriving DecidableEq

def IType.read (w : BitVec 32) : IType where
  rd := w.extractLsb 11 7
  rs1 := w.extractLsb 19 15
  funct3 := w.extractLsb 14 12
  imm := Immediate.i.read w

/-- The bits of the immediate without their sign, as an address of a control and status register or
a shift amount has them. -/
def IType.rawImm (w : BitVec 32) : BitVec 12 := w.extractLsb 31 20

def IType.write (f : IType) (opcode : BitVec 7) : BitVec 32 :=
  BitVec.ofInt 12 f.imm ++ f.rs1 ++ f.funct3 ++ f.rd ++ opcode

structure SType where
  rs1 : BitVec 5
  rs2 : BitVec 5
  funct3 : BitVec 3
  imm : Int
deriving DecidableEq

def SType.read (w : BitVec 32) : SType where
  rs1 := w.extractLsb 19 15
  rs2 := w.extractLsb 24 20
  funct3 := w.extractLsb 14 12
  imm := Immediate.s.read w

def SType.write (f : SType) (opcode : BitVec 7) : BitVec 32 :=
  let imm := BitVec.ofInt 12 f.imm
  imm.extractLsb 11 5 ++ f.rs2 ++ f.rs1 ++ f.funct3 ++ imm.extractLsb 4 0 ++ opcode

structure BType where
  rs1 : BitVec 5
  rs2 : BitVec 5
  funct3 : BitVec 3
  imm : Int
deriving DecidableEq

def BType.read (w : BitVec 32) : BType where
  rs1 := w.extractLsb 19 15
  rs2 := w.extractLsb 24 20
  funct3 := w.extractLsb 14 12
  imm := Immediate.b.read w

def BType.write (f : BType) (opcode : BitVec 7) : BitVec 32 :=
  let imm := BitVec.ofInt 13 f.imm
  imm.extractLsb 12 12 ++ imm.extractLsb 10 5 ++ f.rs2 ++ f.rs1 ++ f.funct3 ++
    imm.extractLsb 4 1 ++ imm.extractLsb 11 11 ++ opcode

structure UType where
  rd : BitVec 5
  imm : Int
deriving DecidableEq

def UType.read (w : BitVec 32) : UType where
  rd := w.extractLsb 11 7
  imm := Immediate.u.read w

def UType.write (f : UType) (opcode : BitVec 7) : BitVec 32 :=
  (BitVec.ofInt 32 f.imm).extractLsb 31 12 ++ f.rd ++ opcode

structure JType where
  rd : BitVec 5
  imm : Int
deriving DecidableEq

def JType.read (w : BitVec 32) : JType where
  rd := w.extractLsb 11 7
  imm := Immediate.j.read w

def JType.write (f : JType) (opcode : BitVec 7) : BitVec 32 :=
  let imm := BitVec.ofInt 21 f.imm
  imm.extractLsb 20 20 ++ imm.extractLsb 10 1 ++ imm.extractLsb 11 11 ++ imm.extractLsb 19 12 ++
    f.rd ++ opcode

/-! ## Compressed formats -/

/-- The register that three bits name: one of `x8` to `x15`. -/
def shortRegister (n : Nat) : Nat := 8 + n % 8

structure HalfFields where
  funct2 : BitVec 2
  funct3 : BitVec 3
  funct4 : BitVec 4
  funct6 : BitVec 6
  rd : BitVec 5
  rs2 : BitVec 5
  shortRs1 : Nat
  shortRs2 : Nat
deriving DecidableEq

def HalfFields.read (w : BitVec 32) : HalfFields where
  funct2 := w.extractLsb 6 5
  funct3 := w.extractLsb 15 13
  funct4 := w.extractLsb 15 12
  funct6 := w.extractLsb 15 10
  rd := w.extractLsb 11 7
  rs2 := w.extractLsb 6 2
  shortRs1 := shortRegister (w.extractLsb 9 7).toNat
  shortRs2 := shortRegister (w.extractLsb 4 2).toNat

end Rv32
