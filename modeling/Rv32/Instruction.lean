import Rv32.Mnemonic

/-!
# Instructions

A decoded instruction: its mnemonic, its operands and the word that it was decoded from.
`Instruction.text` writes it in assembly language.
-/

namespace Rv32

structure Instruction where
  mnemonic : Mnemonic
  operands : Operands
  word : Word
  /-- How often a trace has met the instruction. -/
  frequency : Nat := 0
deriving DecidableEq

namespace Instruction

def format (i : Instruction) : Format := i.mnemonic.encoding.format

/-- The number of bits. -/
def size (i : Instruction) : Nat := i.word.length

def sizeInBytes (i : Instruction) : Nat := i.size / 8

/-! ## What it does -/

def isJumpPcRelative (i : Instruction) : Bool := i.mnemonic.kind == .jumpPcRelative

def isJump (i : Instruction) : Bool := i.mnemonic.kind == .jump || i.isJumpPcRelative

def isBranch (i : Instruction) : Bool := i.mnemonic.kind == .branch

def isControlTransfer (i : Instruction) : Bool := i.isJump || i.isBranch

def isControlTransferPcRelative (i : Instruction) : Bool := i.isJumpPcRelative || i.isBranch

def isLoad (i : Instruction) : Bool := i.mnemonic.kind == .load

def isStore (i : Instruction) : Bool := i.mnemonic.kind == .store

def isMemAccess (i : Instruction) : Bool := i.isLoad || i.isStore

/-! ## Assembly language -/

/-- Loads, stores and `jalr` show their first source as the base of an address. -/
def showsBase (i : Instruction) : Bool := i.isMemAccess || i.mnemonic == .integer .jalr

def maskText : Option Mask → List String
  | some .v0True => ["v0.t"]
  | some .unmasked | none => []

/-- The operands apart from a base: destinations, the sources `src`, immediates, mask. -/
def params (o : Operands) (src : List Register) : String :=
  ",".intercalate (o.dest.map Register.name ++ src.map Register.name ++ o.imm.map toString ++
    maskText o.mask)

def text (i : Instruction) : String :=
  match i.showsBase, i.operands.src with
  | true, base :: src =>
    i.mnemonic.text ++ " " ++ params i.operands src ++ "(" ++ base.name ++ ")"
  | _, src =>
    let ps := params i.operands src
    if ps.isEmpty then i.mnemonic.text else i.mnemonic.text ++ " " ++ ps

end Instruction

/-- The instruction of the operation `m` that the word holds. -/
def Mnemonic.instruction (m : Mnemonic) (w : Word) : Instruction where
  mnemonic := m
  operands := m.encoding.read w.value
  word := w

end Rv32
