import Rv32.Operation.Compressed
import Rv32.Operation.Integer
import Rv32.Operation.Multiply
import Rv32.Operation.Vector
import Rv32.Text.Quoted

/-!
# Mnemonics

A mnemonic names an operation of any of the extensions. `Mnemonic.all` lists them in order,
`Mnemonic.parse` reads a name, and each mnemonic has one `encoding`.
-/

namespace Rv32

/-- The operations of all extensions, in order: integer, multiply, compressed, vector. -/
inductive Mnemonic where
  | integer (op : IntegerOp)
  | multiply (op : MultiplyOp)
  | compressed (op : CompressedOp)
  | vector (op : VectorOp)
deriving DecidableEq, Ord

/-- The text names no operation. -/
structure UnknownMnemonic where
  text : String
deriving DecidableEq

def UnknownMnemonic.message (e : UnknownMnemonic) : String :=
  "unknown mnemonic " ++ Text.quote e.text

namespace Mnemonic

def all : List Mnemonic :=
  IntegerOp.all.map integer ++ MultiplyOp.all.map multiply ++ CompressedOp.all.map compressed ++
    VectorOp.all.map vector

theorem mem_all (m : Mnemonic) : m ∈ all := by
  cases m <;> simp [all, IntegerOp.mem_all, MultiplyOp.mem_all, CompressedOp.mem_all, VectorOp.mem_all]

def form : Mnemonic → Form
  | integer op => op.form
  | multiply op => op.form
  | compressed op => op.form
  | vector op => op.form

def text (m : Mnemonic) : String := m.form.text

def kind (m : Mnemonic) : Kind := m.form.kind

def encoding (m : Mnemonic) : Encoding := m.form.encoding

def isCompressed : Mnemonic → Bool
  | compressed _ => true
  | integer _ | multiply _ | vector _ => false

/-- The position in the order of all mnemonics. -/
def index (m : Mnemonic) : Nat := all.idxOf m

def parse (s : String) : Except UnknownMnemonic Mnemonic :=
  match all.find? (·.text == s) with
  | some m => .ok m
  | none => .error ⟨s⟩

end Mnemonic

end Rv32
