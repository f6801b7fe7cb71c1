import Rv32.Immediate
import Rv32.Register

/-!
# Operands

`Operands` are what an instruction works on: the registers that it writes and reads, its immediates,
and for most vector instructions its mask. The other types say where in a word an operand stands:
`RegisterField`, `Immediate` and `Masking` each have `read`, `write` and `Admits`, the operands that
can be written.
-/

namespace Rv32

/-- Which elements a vector instruction works on: all, or those whose bit in `v0` is set. -/
inductive Mask where
  | unmasked
  | v0True
deriving DecidableEq

structure Operands where
  dest : List Register := []
  src : List Register := []
  imm : List Int := []
  mask : Option Mask := none
deriving DecidableEq

/-! ## Registers -/

/-- A register of `file` whose number is `base` plus the number that stands in the word. -/
structure RegisterField where
  file : RegisterFile
  layout : Layout := []
  base : Nat := 0
deriving DecidableEq

namespace RegisterField

def read (f : RegisterField) (w : BitVec 32) : Register :=
  ⟨f.file, f.base + (f.layout.gather w).toNat⟩

def write (f : RegisterField) (r : Register) : BitVec 32 :=
  f.layout.scatter (BitVec.ofNat 32 (r.index - f.base))

def Admits (f : RegisterField) (r : Register) : Prop :=
  r.file = f.file ∧ f.base ≤ r.index ∧ r.index < f.base + (1 <<< f.layout.length)

instance (f : RegisterField) (r : Register) : Decidable (f.Admits r) :=
  inferInstanceAs (Decidable (_ ∧ _))

/-- Any register of the file, in the five bits from `lo` up. -/
def wide (file : RegisterFile) (lo : Nat) : RegisterField := { file, layout := [⟨lo + 4, lo, 0⟩] }

/-- One of the registers 8 to 15 of the file, in the three bits from `lo` up. -/
def narrow (file : RegisterFile) (lo : Nat) : RegisterField :=
  { file, layout := [⟨lo + 2, lo, 0⟩], base := 8 }

/-- A register that the operation implies, without a place in the word. -/
def implied (r : Register) : RegisterField := { file := r.file, base := r.index }

def rd : RegisterField := wide .x 7
def rs1 : RegisterField := wide .x 15
def rs2 : RegisterField := wide .x 20
def vd : RegisterField := wide .v 7
def vs1 : RegisterField := wide .v 15
def vs2 : RegisterField := wide .v 20

end RegisterField

/-! ## Masks -/

/-- Whether an instruction has a mask: none, the one that bit 25 chooses, or always the same. -/
inductive Masking where
  | absent
  | chosen
  | always (mask : Mask)
deriving DecidableEq

namespace Masking

def read (m : Masking) (w : BitVec 32) : Option Mask :=
  match m with
  | absent => none
  | chosen => some (if w.getLsbD 25 then .unmasked else .v0True)
  | always mask => some mask

def write (m : Masking) (mask : Option Mask) : BitVec 32 :=
  match m, mask with
  | chosen, some .unmasked => 1#32 <<< 25
  | _, _ => 0#32

def Admits (m : Masking) (mask : Option Mask) : Prop :=
  match m with
  | absent => mask = none
  | chosen => mask.isSome
  | always k => mask = some k

instance (m : Masking) (mask : Option Mask) : Decidable (m.Admits mask) := by
  unfold Admits; split <;> infer_instance

end Masking

end Rv32
