import Rv32.Operation.Integer

/-!
# Multiplication and division

The operations of the M extension: `MultiplyOp.form` gives the name and encoding of each. They share
the opcode of the operations on two registers of the base set.
-/

namespace Rv32

/-- The operations of RV32M. -/
inductive MultiplyOp where
  | mul | mulh | mulhsu | mulhu | div | divu | rem | remu
deriving DecidableEq, Ord

namespace MultiplyOp

def all : List MultiplyOp := [mul, mulh, mulhsu, mulhu, div, divu, rem, remu]

theorem mem_all (op : MultiplyOp) : op ∈ all := by cases op <;> decide

def registers (funct3 : Nat) : Encoding := IntegerOp.registers 0b0000001 funct3

def form : MultiplyOp → Form
  | mul => ⟨"mul", registers 0b000, .other⟩
  | mulh => ⟨"mulh", registers 0b001, .other⟩
  | mulhsu => ⟨"mulhsu", registers 0b010, .other⟩
  | mulhu => ⟨"mulhu", registers 0b011, .other⟩
  | div => ⟨"div", registers 0b100, .other⟩
  | divu => ⟨"divu", registers 0b101, .other⟩
  | rem => ⟨"rem", registers 0b110, .other⟩
  | remu => ⟨"remu", registers 0b111, .other⟩

end MultiplyOp

end Rv32
