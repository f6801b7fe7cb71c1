import Rv32.DecodeError
import Rv32.Text.Blank

/-!
# Words as text

* `Word.text` and `Word.ofBits` : a word as its binary digits, most significant first;
* `Word.ofHex` : a word from a hexadecimal number, which selects the width by its low two bits.
-/

namespace Rv32.Word

/-! ## Binary digits -/

def text (w : Word) : String :=
  String.ofList (w.bits.map fun b => if b then '1' else '0')

/-- The width of a word of `n` bits. -/
def width? (n : Nat) : Option Width :=
  if n = 16 then some .half else if n = 32 then some .full else none

/-- Reads a word of 16 or 32 binary digits. The number of characters is looked at first. -/
def ofBits (text : String) : Except DecodeError Word :=
  match width? text.toList.length with
  | none => .error (.invalidWidth text.toList.length)
  | some k =>
    match text.toList.mapM Text.binaryDigit? with
    | none => .error (.malformedBits text)
    | some ds => .ok (ofNat k (Text.ofDigits 2 ds))

/-! ## Hexadecimal numbers -/

/-- The characters behind one base marker `0x` or `0X`. -/
def dropMarker : List Char → List Char
  | '0' :: 'x' :: cs => cs
  | '0' :: 'X' :: cs => cs
  | cs => cs

/-- The characters that have to be digits: those between the blanks at either end, behind the
marker, underscores apart. -/
def hexBody (text : String) : List Char :=
  (dropMarker (Text.trim text.toList)).filter (· != '_')

/-- The word of a number whose digits in base sixteen are `ds`, without leading zeros. A number of
more than eight digits is too wide for any word, and its width counts four bits for each digit; a
shorter one is too wide if its bits exceed the width that it selects. -/
def ofHexDigits (ds : List Nat) : Except DecodeError Word :=
  let v := Text.ofDigits 16 ds
  if 8 < ds.length then .error (.invalidWidth (4 * ds.length))
  else if (Width.select v).bits < Text.bitLength v then .error (.invalidWidth (Text.bitLength v))
  else .ok (ofValue v)

/-- Reads a hexadecimal number. The error for a text that is none shows the text as it was given. -/
def ofHex (text : String) : Except DecodeError Word :=
  match (hexBody text).mapM Text.hexDigit? with
  | none => .error (.malformedHex text)
  | some [] => .error (.malformedHex text)
  | some ds => ofHexDigits (ds.dropWhile (· == 0))

end Rv32.Word
