import Rv32.Text.ExtendingMark
import Rv32.Text.Numeral
import Rv32.Text.Unprintable

/-!
# Quoted text

`quote s` : the text `s` between double quotes, on one line and with every character visible. It is
how a message shows a text that it was given.
-/

namespace Rv32.Text

/-- What stands for the character `c` inside quotes: itself if it can be seen and stands alone, one
of the short escapes, or its code point in base sixteen between braces. -/
def escape (c : Char) : List Char :=
  match c with
  | '"' => ['\\', '"']
  | '\\' => ['\\', '\\']
  | '\x00' => ['\\', '0']
  | '\t' => ['\\', 't']
  | '\n' => ['\\', 'n']
  | '\r' => ['\\', 'r']
  | c =>
    if extendingMarks.has c || unprintables.has c then
      ['\\', 'u', '\x7b'] ++ (hex c.toNat).toList ++ ['\x7d']
    else [c]

def quote (s : String) : String :=
  String.ofList (['"'] ++ s.toList.flatMap escape ++ ['"'])

end Rv32.Text
