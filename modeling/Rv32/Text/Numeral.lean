/-!
# Numerals

Reading and writing natural numbers in a positional system.

* `ofDigits base ds` : the number with the digits `ds`, most significant first;
* `hexDigit?`, `decimal?` : a hexadecimal digit of either case; a decimal numeral without leading
  zeros;
* `binary least n` : `n` in base two, with at least `least` digits;
* `HexStyle.render` : `n` in base sixteen, padded as the style asks.
-/

namespace Rv32.Text

/-! ## Reading -/

def ofDigits (base : Nat) (ds : List Nat) : Nat :=
  ds.foldl (fun n d => base * n + d) 0

def binaryDigit? : Char → Option Nat
  | '0' => some 0
  | '1' => some 1
  | _ => none

def hexDigit? (c : Char) : Option Nat :=
  if '0' ≤ c ∧ c ≤ '9' then some (c.toNat - '0'.toNat)
  else if 'a' ≤ c ∧ c ≤ 'f' then some (c.toNat - 'a'.toNat + 10)
  else if 'A' ≤ c ∧ c ≤ 'F' then some (c.toNat - 'A'.toNat + 10)
  else none

/-- The number that `cs` is the decimal numeral of: ASCII digits only, no sign, no leading zero. -/
def decimal? (cs : List Char) : Option Nat :=
  let n := Nat.ofDigitChars 10 cs 0
  if Nat.toDigits 10 n = cs then some n else none

theorem decimal?_eq_some_iff {cs : List Char} {n : Nat} :
    decimal? cs = some n ↔ cs = Nat.toDigits 10 n := by
  constructor
  · intro h
    simp only [decimal?, Option.ite_none_right_eq_some, Option.some.injEq] at h
    rw [← h.2, h.1]
  · rintro rfl
    simp [decimal?]

/-- The number of binary digits of `n` from its leading one down; zero has none. -/
def bitLength (n : Nat) : Nat := if n = 0 then 0 else n.log2 + 1

/-! ## Writing -/

def binary (least n : Nat) : String :=
  String.ofList ((Nat.toDigits 2 n).leftpad least '0')

/-- How a numeral is brought to its least width. -/
inductive Padding where
  /-- Zeros between the base marker and the digits. -/
  | zeros
  /-- The filling character in front. -/
  | before (fill : Char)
  /-- The filling character behind. -/
  | after (fill : Char)
  /-- The filling character on both sides, an odd one behind. -/
  | around (fill : Char)

/-- How a number is written in base sixteen: the case of the letters, with or without the marker
`0x`, and the least width, which counts the marker. -/
structure HexStyle where
  upper : Bool := false
  marked : Bool := false
  width : Nat := 0
  padding : Padding := .before ' '

def Padding.apply (p : Padding) (width : Nat) (marker digits : List Char) : List Char :=
  let body := marker ++ digits
  match p with
  | .zeros => marker ++ digits.leftpad (width - marker.length) '0'
  | .before fill => body.leftpad width fill
  | .after fill => body.rightpad width fill
  | .around fill => (body.leftpad (body.length + (width - body.length) / 2) fill).rightpad width fill

def HexStyle.render (s : HexStyle) (n : Nat) : String :=
  let digits := Nat.toDigits 16 n
  let digits := if s.upper then digits.map Char.toUpper else digits
  String.ofList (s.padding.apply s.width (if s.marked then ['0', 'x'] else []) digits)

/-- The shortest numeral in base sixteen, in lower case. -/
def hex (n : Nat) : String := HexStyle.render {} n

end Rv32.Text
