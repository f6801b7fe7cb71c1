import Rv32.Format
import Rv32.Opcode
import Rv32.Operands

/-!
# Encodings

How an operation is written as a word: bits that are fixed, bits that hold operands, and patterns
that are reserved.

* `Pattern.Matches` : the word has the bits of the pattern;
* `Encoding.Accepts` : the word is of this operation, given that it has the operation's opcode;
* `Encoding.read` : the operands that the word holds;
* `Encoding.write` : the word of the operands; `Encoding.Admits` : the operands that have one.
-/

namespace Rv32

/-! ## Patterns -/

/-- The value of the bits of a word that are set in `care`. -/
structure Pattern where
  care : BitVec 32
  value : BitVec 32
deriving DecidableEq

namespace Pattern

/-- The pattern of a list of fields, each with its top bit, its low bit and its value. -/
def ofFields (fs : List (Nat × Nat × Nat)) : Pattern where
  care := fs.foldr (fun f m => (Slice.mk f.1 f.2.1 0).mask ||| m) 0#32
  value := fs.foldr (fun f m => (Slice.mk f.1 f.2.1 0).scatter (BitVec.ofNat 32 f.2.2) ||| m) 0#32

/-- The pattern of one word and no other. -/
def word (w : BitVec 32) : Pattern := ⟨BitVec.allOnes 32, w⟩

def Matches (p : Pattern) (w : BitVec 32) : Prop := w &&& p.care = p.value

instance (p : Pattern) (w : BitVec 32) : Decidable (p.Matches w) :=
  inferInstanceAs (Decidable (_ = _))

end Pattern

/-! ## Encodings -/

/-- The encoding of an operation. Among the words with `opcode`, the operation has those with the
bits of `fixed` and of none of the patterns in `reserved`. -/
structure Encoding where
  opcode : Opcode
  format : Format
  fixed : Pattern := .ofFields []
  reserved : List Pattern := []
  dest : List RegisterField := []
  src : List RegisterField := []
  imm : List Immediate := []
  masking : Masking := .absent
deriving DecidableEq

namespace Encoding

/-- The word fits the encoding. The opcode of the word is not looked at. -/
def Accepts (e : Encoding) (w : BitVec 32) : Prop :=
  e.fixed.Matches w ∧ ∀ p ∈ e.reserved, ¬ p.Matches w

instance (e : Encoding) (w : BitVec 32) : Decidable (e.Accepts w) :=
  inferInstanceAs (Decidable (_ ∧ _))

def read (e : Encoding) (w : BitVec 32) : Operands where
  dest := e.dest.map (·.read w)
  src := e.src.map (·.read w)
  imm := e.imm.map (·.read w)
  mask := e.masking.read w

/-- The bits of the opcode, the fixed bits and the operands, put together. -/
def write (e : Encoding) (o : Operands) : BitVec 32 :=
  let parts := BitVec.ofNat 32 e.opcode.code :: e.fixed.value :: e.masking.write o.mask ::
    (List.zipWith RegisterField.write e.dest o.dest ++ List.zipWith RegisterField.write e.src o.src ++
      List.zipWith Immediate.write e.imm o.imm)
  parts.foldr (· ||| ·) 0#32

/-- The operands that the encoding has a word for: as many as it has fields, each within its field,
one register for each field that occurs twice, and no reserved pattern. -/
def Admits (e : Encoding) (o : Operands) : Prop :=
  o.dest.length = e.dest.length ∧ o.src.length = e.src.length ∧ o.imm.length = e.imm.length ∧
  (∀ p ∈ (e.dest ++ e.src).zip (o.dest ++ o.src), p.1.Admits p.2) ∧
  (∀ p ∈ (e.dest ++ e.src).zip (o.dest ++ o.src),
    ∀ q ∈ (e.dest ++ e.src).zip (o.dest ++ o.src), p.1 = q.1 → p.2 = q.2) ∧
  (∀ p ∈ e.imm.zip o.imm, p.1.Admits p.2) ∧
  e.masking.Admits o.mask ∧ ∀ p ∈ e.reserved, ¬ p.Matches (e.write o)

instance (e : Encoding) (o : Operands) : Decidable (e.Admits o) := by
  unfold Admits; infer_instance

end Encoding

end Rv32
