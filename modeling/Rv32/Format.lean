/-!
# Instruction formats

The shapes in which the fields of an instruction word are laid out: six of the base set, nine of the
compressed set, three of the vector set.
-/

namespace Rv32

inductive Format where
  | r | i | s | b | u | j
  | cr | ci | css | ciw | cl | cs | ca | cb | cj
  | v | vl | vs
deriving DecidableEq

namespace Format

def all : List Format :=
  [r, i, s, b, u, j, cr, ci, css, ciw, cl, cs, ca, cb, cj, v, vl, vs]

def text : Format → String
  | r => "R" | i => "I" | s => "S" | b => "B" | u => "U" | j => "J"
  | cr => "CR" | ci => "CI" | css => "CSS" | ciw => "CIW" | cl => "CL" | cs => "CS" | ca => "CA"
  | cb => "CB" | cj => "CJ"
  | v => "V" | vl => "VL" | vs => "VS"

def isCompressed : Format → Bool
  | cr | ci | css | ciw | cl | cs | ca | cb | cj => true
  | r | i | s | b | u | j | v | vl | vs => false

end Format

end Rv32
