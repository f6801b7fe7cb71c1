import Rv32.Proofs.Decode
import Rv32.Proofs.Immediate

/-!
# Assembling what was read

* `Encoding.determined` : the bits that the opcode, the fixed bits and the operands of an encoding
  take up between them;
* `Encoding.write_read` : a word of an encoding, read and written back, keeps these bits;
* `Mnemonic.assemble_read` : for every operation but `fence`, `fence.i` and `c.nop` these are all
  bits, so that the operands of a word assemble to the word.
-/

namespace Rv32

/-! ## The bits of an encoding -/

def Opcode.mask : Opcode → BitVec 32
  | major _ => 0x7F#32
  | quadrant _ => 0x3#32

def Masking.mask : Masking → BitVec 32
  | chosen => BitVec.twoPow 32 25
  | absent | always _ => 0#32

namespace Encoding

/-- The masks of the parts of a word, in the order in which `write` puts them together. -/
def masks (e : Encoding) : List (BitVec 32) :=
  e.opcode.mask :: e.fixed.care :: e.masking.mask ::
    (e.dest.map (·.layout.mask) ++ e.src.map (·.layout.mask) ++ e.imm.map (·.layout.mask))

def determined (e : Encoding) : BitVec 32 := e.masks.foldr (· ||| ·) 0#32

/-- The operands have a place for each of their bits. -/
def IsExact (e : Encoding) : Prop :=
  (∀ f ∈ e.dest, f.layout.IsProper) ∧ (∀ f ∈ e.src, f.layout.IsProper) ∧ ∀ m ∈ e.imm, m.IsExact

instance (e : Encoding) : Decidable e.IsExact := inferInstanceAs (Decidable (_ ∧ _))

end Encoding

/-! ## Parts read and written back -/

theorem Word.ofNat_code (w : Word) :
    BitVec.ofNat 32 w.opcode.code = w.value &&& w.opcode.mask := by
  apply BitVec.eq_of_toNat_eq
  cases w with
  | half b =>
    have hb := b.isLt
    simp only [opcode, Opcode.code, Opcode.mask, value, BitVec.toNat_ofNat, BitVec.toNat_and,
      BitVec.toNat_setWidth, BitVec.extractLsb'_toNat, Nat.shiftRight_zero]
    rw [show (3 % 2 ^ 32) = 2 ^ 2 - 1 from rfl, Nat.and_two_pow_sub_one_eq_mod]
    omega
  | full b =>
    simp only [opcode, Opcode.code, Opcode.mask, value, BitVec.toNat_ofNat, BitVec.toNat_and,
      BitVec.extractLsb'_toNat, Nat.shiftRight_zero]
    rw [show (0x7F % 2 ^ 32) = 2 ^ 7 - 1 from rfl, Nat.and_two_pow_sub_one_eq_mod]
    omega

theorem Masking.write_read (m : Masking) (w : BitVec 32) : m.write (m.read w) = w &&& m.mask := by
  cases m with
  | absent => simp [write, mask]
  | always k => simp [write, mask]
  | chosen =>
    rw [mask, BitVec.and_twoPow, read]
    by_cases h : w.getLsbD 25
    · rw [if_pos h, if_pos h]
      rfl
    · rw [if_neg h, if_neg h]
      rfl

theorem RegisterField.write_read {f : RegisterField} (hf : f.layout.IsProper) (w : BitVec 32) :
    f.write (f.read w) = w &&& f.layout.mask := by
  rw [write, read, Nat.add_sub_cancel_left, BitVec.ofNat_toNat, BitVec.setWidth_eq,
    Layout.scatter_gather hf]

namespace Encoding

variable {e : Encoding} {w : Word}

theorem foldr_or_and (v : BitVec 32) (l : List (BitVec 32)) :
    (l.map (v &&& ·)).foldr (· ||| ·) 0#32 = v &&& l.foldr (· ||| ·) 0#32 := by
  induction l with
  | nil => simp
  | cons a l ih =>
    rw [List.map_cons, List.foldr_cons, List.foldr_cons, ih, BitVec.and_or_distrib_left]

theorem zipWith_map_read {α β : Type} {write : α → β → BitVec 32} {read : α → β}
    {part : α → BitVec 32} {l : List α} (h : ∀ a ∈ l, write a (read a) = part a) :
    List.zipWith write l (l.map read) = l.map part := by
  rw [List.zipWith_map_right, List.zipWith_self]
  exact List.map_congr_left h

theorem write_read (he : e.IsExact) (hop : e.opcode = w.opcode) (hacc : e.Accepts w.value) :
    e.write (e.read w.value) = w.value &&& e.determined := by
  obtain ⟨hdest, hsrc, himm⟩ := he
  -- every part that is written is what the word holds within the mask of the part
  have hcode : BitVec.ofNat 32 e.opcode.code = w.value &&& e.opcode.mask := by
    rw [hop]
    exact w.ofNat_code
  have hfixed : e.fixed.value = w.value &&& e.fixed.care := hacc.1.symm
  have hdest' := zipWith_map_read fun f hf => RegisterField.write_read (hdest f hf) w.value
  have hsrc' := zipWith_map_read fun f hf => RegisterField.write_read (hsrc f hf) w.value
  have himm' := zipWith_map_read fun m hm => Immediate.write_read (himm m hm) w.value
  rw [determined, ← foldr_or_and, write, read, hcode, hfixed, Masking.write_read, hdest', hsrc',
    himm']
  simp [masks, Function.comp_def]

end Encoding

/-! ## Words read and assembled -/

def Width.mask : Width → BitVec 32
  | half => 0xFFFF#32
  | full => BitVec.allOnes 32

theorem Word.value_and_mask (w : Word) : w.value &&& w.width.mask = w.value := by
  cases w with
  | half b =>
    apply BitVec.eq_of_toNat_eq
    have hb := b.isLt
    simp only [value, width, Width.mask, BitVec.toNat_and, BitVec.toNat_setWidth,
      BitVec.toNat_ofNat]
    rw [show (0xFFFF % 2 ^ 32) = 2 ^ 16 - 1 from rfl, Nat.and_two_pow_sub_one_eq_mod]
    omega
  | full b => exact BitVec.and_allOnes

namespace Mnemonic

variable {m : Mnemonic} {w : Word}

/-- The operations with bits that are neither fixed nor part of an operand. -/
def ignoringBits : List Mnemonic := [.integer .fence, .integer .fenceI, .compressed .nop]

theorem width_of_fits (h : m.Fits w) : m.width = w.width := by
  rw [width, h.1]
  cases w <;> rfl

theorem isExact_encoding : ∀ m : Mnemonic, m.encoding.IsExact := by decide +kernel

theorem determined_eq_mask_iff : ∀ m : Mnemonic,
    m.width.mask &&& m.encoding.determined = m.width.mask ↔ m ∉ ignoringBits := by
  decide +kernel

/-- The operands of a word of the operation assemble to that word. -/
theorem assemble_read (hm : m ∉ ignoringBits) (h : m.Fits w) :
    m.assemble (m.encoding.read w.value) = w := by
  have hvalue : w.value &&& m.encoding.determined = w.value := by
    rw [← w.value_and_mask, ← width_of_fits h, BitVec.and_assoc, m.determined_eq_mask_iff.2 hm]
  rw [assemble, Encoding.write_read m.isExact_encoding h.1 h.2, hvalue, width_of_fits h,
    Word.ofNat_value]

end Mnemonic

end Rv32
