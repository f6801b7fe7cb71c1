import Rv32.Layout

/-!
# Immediate operands

An immediate is a number written into the instruction word itself.

* `signExtend v n` : the low `n` bits of `v` as a number in two's complement;
* `Immediate.read`, `Immediate.write` : the immediate that a word holds; the word that holds it;
* `Immediate.Admits` : the values that can be written.

The immediates of the base formats come first, then those of the vector set, then those of the
compressed set, whose bits are scattered so that most of them stand in the same place in every
format.
-/

namespace Rv32

def signExtend (v : BitVec 32) (n : Nat) : Int := (v.setWidth n).toInt

/-- The bits of the value from `align` up to `width` stand in the word as `layout` says, and those
below `align` are zero. -/
structure Immediate where
  layout : Layout
  width : Nat
  align : Nat := 0
  signed : Bool := false
deriving DecidableEq

namespace Immediate

def read (m : Immediate) (w : BitVec 32) : Int :=
  let v := m.layout.gather w
  if m.signed then signExtend v m.width else v.toNat

def write (m : Immediate) (n : Int) : BitVec 32 := m.layout.scatter (BitVec.ofInt 32 n)

/-- The values that the immediate can have: the multiples of `2 ^ align` in its range. -/
def Admits (m : Immediate) (n : Int) : Prop :=
  let unit : Nat := 1 <<< m.align
  let half : Nat := 1 <<< (m.width - 1)
  let whole : Nat := 1 <<< m.width
  (unit : Int) ∣ n ∧ if m.signed then -(half : Int) ≤ n ∧ n < half else 0 ≤ n ∧ n < whole

instance (m : Immediate) (n : Int) : Decidable (m.Admits n) := by
  unfold Admits; infer_instance

/-- An unsigned number in the bits `hi` down to `lo`. -/
def unsigned (hi lo : Nat) : Immediate := { layout := [⟨hi, lo, 0⟩], width := hi + 1 - lo }

/-! ## Base formats -/

def i : Immediate := { layout := [⟨31, 20, 0⟩], width := 12, signed := true }

def s : Immediate := { layout := [⟨31, 25, 5⟩, ⟨11, 7, 0⟩], width := 12, signed := true }

def b : Immediate where
  layout := [⟨31, 31, 12⟩, ⟨7, 7, 11⟩, ⟨30, 25, 5⟩, ⟨11, 8, 1⟩]
  width := 13
  align := 1
  signed := true

def u : Immediate := { layout := [⟨31, 12, 12⟩], width := 32, align := 12, signed := true }

def j : Immediate where
  layout := [⟨31, 31, 20⟩, ⟨19, 12, 12⟩, ⟨20, 20, 11⟩, ⟨30, 21, 1⟩]
  width := 21
  align := 1
  signed := true

/-- A shift amount. -/
def shamt : Immediate := unsigned 24 20

/-- The address of a control and status register. -/
def csr : Immediate := unsigned 31 20

/-- The number in the place of the first source register. -/
def uimm : Immediate := unsigned 19 15

/-- The accesses that a fence orders before it, and those that it orders after it. -/
def pred : Immediate := unsigned 27 24
def succ : Immediate := unsigned 23 20

/-! ## Vector formats -/

/-- The signed number in the place of the first source register. -/
def simm : Immediate := { layout := [⟨19, 15, 0⟩], width := 5, signed := true }

/-- The vector type, in eleven or in ten bits. -/
def vtype : Immediate := unsigned 30 20
def vtypeShort : Immediate := unsigned 29 20

/-! ## Compressed formats -/

/-- What is added to the stack pointer to form an address. -/
def stackAddress : Immediate where
  layout := [⟨10, 7, 6⟩, ⟨12, 11, 4⟩, ⟨5, 5, 3⟩, ⟨6, 6, 2⟩]
  width := 10
  align := 2

/-- The offset of a word from a base register. -/
def wordOffset : Immediate where
  layout := [⟨5, 5, 6⟩, ⟨12, 10, 3⟩, ⟨6, 6, 2⟩]
  width := 7
  align := 2

/-- The offset of a doubleword from a base register. -/
def doubleOffset : Immediate where
  layout := [⟨6, 5, 6⟩, ⟨12, 10, 3⟩]
  width := 8
  align := 3

/-- A small signed number. -/
def small : Immediate := { layout := [⟨12, 12, 5⟩, ⟨6, 2, 0⟩], width := 6, signed := true }

/-- A shift amount in six bits. -/
def shortShamt : Immediate := { layout := [⟨12, 12, 5⟩, ⟨6, 2, 0⟩], width := 6 }

/-- What the stack pointer is moved by. -/
def stackStep : Immediate where
  layout := [⟨12, 12, 9⟩, ⟨4, 3, 7⟩, ⟨5, 5, 6⟩, ⟨2, 2, 5⟩, ⟨6, 6, 4⟩]
  width := 10
  align := 4
  signed := true

/-- A small signed number in the upper part of a register. -/
def smallUpper : Immediate where
  layout := [⟨12, 12, 17⟩, ⟨6, 2, 12⟩]
  width := 18
  align := 12
  signed := true

/-- The offset of a word that is loaded from the stack. -/
def stackLoadWord : Immediate where
  layout := [⟨3, 2, 6⟩, ⟨12, 12, 5⟩, ⟨6, 4, 2⟩]
  width := 8
  align := 2

/-- The offset of a doubleword that is loaded from the stack. -/
def stackLoadDouble : Immediate where
  layout := [⟨4, 2, 6⟩, ⟨12, 12, 5⟩, ⟨6, 5, 3⟩]
  width := 9
  align := 3

/-- The offset of a word that is stored on the stack. -/
def stackStoreWord : Immediate where
  layout := [⟨8, 7, 6⟩, ⟨12, 9, 2⟩]
  width := 8
  align := 2

/-- The offset of a doubleword that is stored on the stack. -/
def stackStoreDouble : Immediate where
  layout := [⟨9, 7, 6⟩, ⟨12, 10, 3⟩]
  width := 9
  align := 3

/-- The distance of a jump. -/
def jumpOffset : Immediate where
  layout := [⟨12, 12, 11⟩, ⟨8, 8, 10⟩, ⟨10, 9, 8⟩, ⟨6, 6, 7⟩, ⟨7, 7, 6⟩, ⟨2, 2, 5⟩, ⟨11, 11, 4⟩,
    ⟨5, 3, 1⟩]
  width := 12
  align := 1
  signed := true

/-- The distance of a branch. -/
def branchOffset : Immediate where
  layout := [⟨12, 12, 8⟩, ⟨6, 5, 6⟩, ⟨2, 2, 5⟩, ⟨11, 10, 3⟩, ⟨4, 3, 1⟩]
  width := 9
  align := 1
  signed := true

end Immediate

end Rv32
