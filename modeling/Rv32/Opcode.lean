import Rv32.Text.Numeral
import Rv32.Word.Basic

/-!
# Opcodes

What selects a group of encodings: the low seven bits of a full word, the major opcode, or the low
two bits of a half word, its quadrant. `Word.opcode` reads it, `Opcode.text` writes it, and
`Opcode.all` lists the ones that have a name, in ascending order.
-/

namespace Rv32

/-- Major opcodes come before quadrants, and within each group the smaller number comes first. -/
inductive Opcode where
  | major (code : Nat)
  | quadrant (index : Nat)
deriving DecidableEq, Ord

namespace Opcode

def load : Opcode := .major 0x03
def loadFp : Opcode := .major 0x07
def miscMem : Opcode := .major 0x0F
def opImm : Opcode := .major 0x13
def auipc : Opcode := .major 0x17
def store : Opcode := .major 0x23
def storeFp : Opcode := .major 0x27
def op : Opcode := .major 0x33
def lui : Opcode := .major 0x37
def opV : Opcode := .major 0x57
def branch : Opcode := .major 0x63
def jalr : Opcode := .major 0x67
def jal : Opcode := .major 0x6F
def system : Opcode := .major 0x73

/-- The opcodes that some extension uses. -/
def all : List Opcode :=
  [load, loadFp, miscMem, opImm, auipc, store, storeFp, op, lui, opV, branch, jalr, jal, system,
   .quadrant 0, .quadrant 1, .quadrant 2]

def isCompressed : Opcode → Bool
  | major _ => false
  | quadrant _ => true

/-- The number of the opcode within its group. -/
def code : Opcode → Nat
  | major code => code
  | quadrant index => index

def text : Opcode → String
  | major code => "opcode 0b" ++ Text.binary 7 code
  | quadrant index => "quadrant " ++ toString index

end Opcode

/-- The opcode of a word, by its width. -/
def Word.opcode : Word → Opcode
  | .half b => .quadrant (b.extractLsb' 0 2).toNat
  | .full b => .major (b.extractLsb' 0 7).toNat

end Rv32
