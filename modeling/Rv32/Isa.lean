import Rv32.Extension
import Rv32.Text.Blank

/-!
# Instruction sets

An instruction set is a set of extensions of RV32. `Isa.text` writes its name, such as `RV32IMC`, and
`Isa.parse` reads one.
-/

namespace Rv32

/-- Which extensions are enabled. -/
structure Isa where
  integer : Bool := false
  multiply : Bool := false
  vector : Bool := false
  compressed : Bool := false
deriving DecidableEq

/-- Why a text names no instruction set. -/
inductive IsaError where
  /-- The text enables no extension. -/
  | empty
  /-- No extension has this letter. -/
  | unknownExtension (letter : Char)
deriving DecidableEq

def IsaError.message : IsaError → String
  | empty => "empty ISA string"
  | unknownExtension letter =>
    "unknown extension " ++ Text.quote (String.singleton letter) ++ " in ISA string"

namespace Isa

/-- No extension. -/
def empty : Isa := {}

def supports (s : Isa) : Extension → Bool
  | .integer => s.integer
  | .multiply => s.multiply
  | .vector => s.vector
  | .compressed => s.compressed

def enable (s : Isa) : Extension → Isa
  | .integer => { s with integer := true }
  | .multiply => { s with multiply := true }
  | .vector => { s with vector := true }
  | .compressed => { s with compressed := true }

theorem supports_enable (s : Isa) (e e' : Extension) :
    (s.enable e).supports e' = (s.supports e' || e == e') := by
  cases e <;> cases e' <;> simp [supports, enable]

def ofExtensions (es : List Extension) : Isa := es.foldl enable empty

theorem supports_foldl_enable (es : List Extension) (s : Isa) (e : Extension) :
    (es.foldl enable s).supports e = (s.supports e || es.contains e) := by
  induction es generalizing s with
  | nil => simp
  | cons d es ih =>
    rw [List.foldl_cons, ih, supports_enable, List.contains_cons, Bool.or_assoc, BEq.comm]

theorem supports_ofExtensions {es : List Extension} {e : Extension} :
    (ofExtensions es).supports e ↔ e ∈ es := by
  rw [ofExtensions, supports_foldl_enable]
  cases e <;> simp [empty, supports]

def rv32i : Isa := ofExtensions [.integer]
def rv32im : Isa := ofExtensions [.integer, .multiply]
def rv32imc : Isa := ofExtensions [.integer, .multiply, .compressed]
def rv32imvc : Isa := ofExtensions [.integer, .multiply, .vector, .compressed]

/-- The enabled extensions in the order in which they are consulted. -/
def extensions (s : Isa) : List Extension := Extension.all.filter s.supports

theorem mem_extensions {s : Isa} {e : Extension} : e ∈ s.extensions ↔ s.supports e := by
  simp [extensions, Extension.mem_all]

def isEmpty (s : Isa) : Bool := s.extensions.isEmpty

/-! ## Names -/

def text (s : Isa) : String :=
  String.ofList (['R', 'V', '3', '2'] ++ s.extensions.map Extension.letter)

/-- The characters behind `RV`, if they begin with it. -/
def dropFamily : List Char → List Char
  | 'R' :: 'V' :: cs => cs
  | cs => cs

/-- The characters behind `32`, if they begin with it. -/
def dropSize : List Char → List Char
  | '3' :: '2' :: cs => cs
  | cs => cs

/-- The letters of the extensions: the text in upper case between the blanks at either end, behind
family and size. -/
def letters (s : String) : List Char :=
  dropSize (dropFamily ((Text.trim s.toList).map Char.toUpper))

def extensionOf (c : Char) : Except IsaError Extension :=
  match Extension.ofLetter? c with
  | some e => .ok e
  | none => .error (.unknownExtension c)

/-- Reads the name of an instruction set. Letters may come in any case and order and more than once,
and underscores may stand among them; family and size may be left out. -/
def parse (s : String) : Except IsaError Isa := do
  let es ← ((letters s).filter (· != '_')).mapM extensionOf
  if es.isEmpty then .error .empty else .ok (ofExtensions es)

end Isa

end Rv32
