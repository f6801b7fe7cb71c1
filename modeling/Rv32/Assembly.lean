import Rv32.Decode

/-!
# Assembling

The way back from operands to words. `Mnemonic.assemble` writes the operands of an operation into a
word of the width that its opcode has, and `Mnemonic.Admits` are the operands that it has a word for.
-/

namespace Rv32

namespace Mnemonic

def width (m : Mnemonic) : Width := if m.encoding.opcode.isCompressed then .half else .full

def assemble (m : Mnemonic) (o : Operands) : Word :=
  .ofNat m.width (m.encoding.write o).toNat

def Admits (m : Mnemonic) (o : Operands) : Prop := m.encoding.Admits o

instance (m : Mnemonic) (o : Operands) : Decidable (m.Admits o) :=
  inferInstanceAs (Decidable (m.encoding.Admits o))

end Mnemonic

/-- The word that the operands of the instruction assemble to. -/
def Instruction.assemble (i : Instruction) : Word := i.mnemonic.assemble i.operands

end Rv32
