/-!
# Instruction words

An instruction is a word of 16 or 32 bits, and its low two bits tell which: `11` begins a full word.

* `Word.value` : the word as a 32-bit number, the bits above its length being zero;
* `Word.ofNat`, `Word.ofValue` : the word of a number, at a given width or at the width that the
  number selects;
* `Word.get?`, `Word.bits` : the bits from the most significant down;
* `Word.bit`, `Word.field` : the bits by position, zero being the least significant;
* `Word.bytes` : the bytes of the word in memory, least significant first.
-/

namespace Rv32

/-- The two lengths of an instruction word. -/
inductive Width where
  | half
  | full
deriving DecidableEq

def Width.bits : Width → Nat
  | .half => 16
  | .full => 32

/-- The width that a word with the low bits of `v` has. -/
def Width.select (v : Nat) : Width := if v % 4 = 3 then .full else .half

/-- An instruction word. A word may be of either width whatever its low bits are; `IsCoherent` says
that they agree. -/
inductive Word where
  | half (bits : BitVec 16)
  | full (bits : BitVec 32)
deriving DecidableEq

abbrev Byte := BitVec 8

namespace Word

def width : Word → Width
  | half _ => .half
  | full _ => .full

/-- The number of bits. -/
def length (w : Word) : Nat := w.width.bits

def value : Word → BitVec 32
  | half b => b.setWidth 32
  | full b => b

/-- The word of width `k` that holds as many of the low bits of `v` as fit. -/
def ofNat (k : Width) (v : Nat) : Word :=
  match k with
  | .half => half (BitVec.ofNat 16 v)
  | .full => full (BitVec.ofNat 32 v)

/-- The word of `v`, as long as the low two bits of `v` say. -/
def ofValue (v : Nat) : Word := ofNat (.select v) v

@[simp]
theorem width_ofNat (k : Width) (v : Nat) : (ofNat k v).width = k := by cases k <;> rfl

theorem ofNat_value (w : Word) : ofNat w.width w.value.toNat = w := by
  cases w with
  | half b =>
    have := b.isLt
    simp only [ofNat, width, value, BitVec.toNat_setWidth, half.injEq]
    rw [Nat.mod_eq_of_lt (by omega), BitVec.ofNat_toNat, BitVec.setWidth_eq]
  | full b => simp [ofNat, width, value]

/-- The low two bits select the width that the word has. -/
def IsCoherent (w : Word) : Prop := Width.select w.value.toNat = w.width

instance (w : Word) : Decidable w.IsCoherent := inferInstanceAs (Decidable (_ = _))

/-! ## Bits -/

/-- The bit with index `i` from the most significant one. -/
def get? (w : Word) (i : Nat) : Option Bool :=
  if i < w.length then some (w.value.getLsbD (w.length - 1 - i)) else none

/-- The bits, most significant first. -/
def bits : Word → List Bool
  | half b => (List.finRange 16).map fun i => b.getMsb i
  | full b => (List.finRange 32).map fun i => b.getMsb i

@[simp]
theorem length_bits (w : Word) : w.bits.length = w.length := by
  cases w <;> simp [bits, length, width, Width.bits]

/-- The bit at position `i`, zero beyond the length. -/
def bit (w : Word) (i : Nat) : Nat := (w.value.getLsbD i).toNat

/-- The number in the bits `hi` down to `lo`. -/
def field (w : Word) (hi lo : Nat) : Nat := (w.value.extractLsb hi lo).toNat

/-! ## Bytes -/

def bytes : Word → List Byte
  | half b => [b.extractLsb' 0 8, b.extractLsb' 8 8]
  | full b => [b.extractLsb' 0 8, b.extractLsb' 8 8, b.extractLsb' 16 8, b.extractLsb' 24 8]

end Word

end Rv32
