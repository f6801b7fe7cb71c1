import Rv32.Encoding

/-!
# Forms of operations

What is known of an operation before any word is looked at: its name, what it does to the flow of
control and to memory, and its encoding.
-/

namespace Rv32

/-- What an operation does besides computing. Vector operations are all `other`. -/
inductive Kind where
  | other
  /-- Goes on elsewhere if a condition holds. -/
  | branch
  /-- Goes on at the address in a register. -/
  | jump
  /-- Goes on at a distance from the instruction itself. -/
  | jumpPcRelative
  | load
  | store
deriving DecidableEq

structure Form where
  text : String
  encoding : Encoding
  kind : Kind := .other

end Rv32
