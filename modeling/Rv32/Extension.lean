import Rv32.Mnemonic

/-!
# Extensions

The parts of the instruction set that can be enabled. `Extension.mnemonics` are the operations of an
extension, and `Extension.opcodes` the opcodes under which it looks for them.
-/

namespace Rv32

inductive Extension where
  | integer
  | multiply
  | vector
  | compressed
deriving DecidableEq

namespace Extension

/-- The extensions in the order in which they are consulted. -/
def all : List Extension := [integer, multiply, vector, compressed]

theorem mem_all (e : Extension) : e ∈ all := by cases e <;> decide

def letter : Extension → Char
  | integer => 'I'
  | multiply => 'M'
  | vector => 'V'
  | compressed => 'C'

def ofLetter? : Char → Option Extension
  | 'I' => some integer
  | 'M' => some multiply
  | 'V' => some vector
  | 'C' => some compressed
  | _ => none

theorem ofLetter?_letter (e : Extension) : ofLetter? e.letter = some e := by cases e <;> rfl

def tag : Extension → String
  | integer => "32I"
  | multiply => "M"
  | vector => "V"
  | compressed => "C"

def title : Extension → String
  | integer => "RV32I (Base Integer)"
  | multiply => "RV32M (Multiply/Divide)"
  | vector => "RVV (Vector)"
  | compressed => "RVC (Compressed)"

def mnemonics : Extension → List Mnemonic
  | integer => IntegerOp.all.map .integer
  | multiply => MultiplyOp.all.map .multiply
  | vector => VectorOp.all.map .vector
  | compressed => CompressedOp.all.map .compressed

def opcodes : Extension → List Opcode
  | integer =>
    [.load, .miscMem, .opImm, .auipc, .store, .op, .lui, .branch, .jalr, .jal, .system]
  | multiply => [.op]
  | vector => [.opV, .loadFp, .storeFp]
  | compressed => [.quadrant 0, .quadrant 1, .quadrant 2]

end Extension

def Mnemonic.extension : Mnemonic → Extension
  | integer _ => .integer
  | multiply _ => .multiply
  | compressed _ => .compressed
  | vector _ => .vector

theorem Extension.mem_mnemonics {e : Extension} {m : Mnemonic} :
    m ∈ e.mnemonics ↔ m.extension = e := by
  cases e <;> cases m <;>
    simp [mnemonics, Mnemonic.extension, IntegerOp.mem_all, MultiplyOp.mem_all,
      CompressedOp.mem_all, VectorOp.mem_all]

end Rv32
