import Rv32.Opcode
import Rv32.Text.Quoted

/-!
# Why a word is no instruction

`DecodeError` lists the causes, from reading the word to finding its encoding; `message` words them.
-/

namespace Rv32

inductive DecodeError where
  /-- The text is no hexadecimal number. -/
  | malformedHex (text : String)
  /-- The text has a character that is no binary digit. -/
  | malformedBits (text : String)
  /-- No word has this many bits. -/
  | invalidWidth (bits : Nat)
  /-- No enabled extension uses the opcode. -/
  | unsupportedOpcode (opcode : Opcode)
  /-- The opcode is in use, but no enabled extension has an encoding that fits the word. -/
  | unknownEncoding (opcode : Opcode) (word : Word)
  /-- The bytes end within the instruction that begins at the offset. -/
  | truncated (offset : Nat)
deriving DecidableEq

def DecodeError.message : DecodeError → String
  | malformedHex text => "malformed hex input: " ++ Text.quote text
  | malformedBits text => "malformed bit input: " ++ Text.quote text
  | invalidWidth bits => "invalid instruction width: " ++ toString bits ++ " bits"
  | unsupportedOpcode opcode => "unsupported opcode: " ++ opcode.text
  | unknownEncoding opcode word =>
    "unknown encoding for " ++ opcode.text ++ ": 0x" ++ Text.hex word.value.toNat
  | truncated offset => "truncated instruction at byte offset " ++ toString offset

end Rv32
