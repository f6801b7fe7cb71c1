import Rv32.Text.Numeral

/-!
# Registers

* `Register.text`, `Register.ofText?` : a register by the letter of its file and its number;
* `Register.abiName?` : the name that the calling convention gives an integer register;
* `Register.name` : how an instruction shows a register, by that name if it has one;
* `displayName s` : the same for a text, which stays as it is if it names no integer register.
-/

namespace Rv32

/-- The register files, integer before floating point before vector. -/
inductive RegisterFile where
  | x
  | f
  | v
deriving DecidableEq, Ord

def RegisterFile.letter : RegisterFile → Char
  | x => 'x'
  | f => 'f'
  | v => 'v'

def RegisterFile.ofLetter? : Char → Option RegisterFile
  | 'x' => some .x
  | 'f' => some .f
  | 'v' => some .v
  | _ => none

/-- A register, ordered by its file and then by its number. -/
structure Register where
  file : RegisterFile
  index : Nat
deriving DecidableEq, Ord

namespace Register

def zero : Register := ⟨.x, 0⟩
def ra : Register := ⟨.x, 1⟩
def sp : Register := ⟨.x, 2⟩

def text (r : Register) : String :=
  String.ofList (r.file.letter :: Nat.toDigits 10 r.index)

def ofText? (s : String) : Option Register :=
  match s.toList with
  | [] => none
  | c :: cs => do
    let file ← RegisterFile.ofLetter? c
    let index ← Text.decimal? cs
    pure ⟨file, index⟩

theorem ofText?_text (r : Register) : ofText? r.text = some r := by
  have hf : RegisterFile.ofLetter? r.file.letter = some r.file := by cases r.file <;> rfl
  have hi : Text.decimal? (Nat.toDigits 10 r.index) = some r.index :=
    Text.decimal?_eq_some_iff.2 rfl
  simp [ofText?, text, hf, hi]

/-- The names of `x0` to `x31` in the calling convention. -/
def abiNames : List String :=
  ["zero", "ra", "sp", "gp", "tp", "t0", "t1", "t2", "s0", "s1", "a0", "a1", "a2", "a3", "a4", "a5",
   "a6", "a7", "s2", "s3", "s4", "s5", "s6", "s7", "s8", "s9", "s10", "s11", "t3", "t4", "t5", "t6"]

def abiName? (r : Register) : Option String :=
  match r.file with
  | .x => abiNames[r.index]?
  | .f | .v => none

def name (r : Register) : String := r.abiName?.getD r.text

end Register

end Rv32
