/-!
# Layouts of operand bits

An operand of an instruction is a number whose bits stand somewhere in the word, in one run or in
several. A layout lists the runs; it reads the operand out of a word and places it into one.

* `Layout.gather` : the operand that the word holds;
* `Layout.scatter` : the word that holds the operand, all other bits being zero;
* `Layout.mask` : the bits of the word that the operand takes.
-/

namespace Rv32

/-- The bits `hi` down to `lo` of a word, which are the bits of the operand from `place` up. -/
structure Slice where
  hi : Nat
  lo : Nat
  place : Nat := 0
deriving DecidableEq

namespace Slice

def length (s : Slice) : Nat := s.hi + 1 - s.lo

def gather (s : Slice) (w : BitVec 32) : BitVec 32 :=
  (w.extractLsb' s.lo s.length).setWidth 32 <<< s.place

def scatter (s : Slice) (v : BitVec 32) : BitVec 32 :=
  (v.extractLsb' s.place s.length).setWidth 32 <<< s.lo

def mask (s : Slice) : BitVec 32 :=
  (BitVec.allOnes s.length).setWidth 32 <<< s.lo

end Slice

abbrev Layout := List Slice

namespace Layout

def gather (l : Layout) (w : BitVec 32) : BitVec 32 :=
  l.foldr (fun s v => s.gather w ||| v) 0#32

def scatter (l : Layout) (v : BitVec 32) : BitVec 32 :=
  l.foldr (fun s w => s.scatter v ||| w) 0#32

def mask (l : Layout) : BitVec 32 :=
  l.foldr (fun s m => s.mask ||| m) 0#32

/-- The number of bits of the operand that the word holds. -/
def length (l : Layout) : Nat := l.foldr (fun s n => s.length + n) 0

end Layout

end Rv32
