/-!
# Sets of code points

A property of characters is a table of runs of code points. `CodePoints.has t c` : the table `t`
holds the character `c`.
-/

namespace Rv32.Text

/-- A set of code points as its runs, each by its first and its last member, in ascending order. -/
abbrev CodePoints := List (Nat × Nat)

def CodePoints.has (t : CodePoints) (c : Char) : Bool :=
  t.any fun r => r.1 ≤ c.toNat && c.toNat ≤ r.2

end Rv32.Text
