import Rv32.Instruction
import Rv32.Isa
import Rv32.Word.Text

/-!
# Decoding

* `Extension.decodeAt e k w` : the instruction among those of extension `e` under opcode `k` that
  the word `w` holds, whatever opcode `w` itself has;
* `Extension.decode? e w` : the same under the opcode of `w`;
* `Isa.decode s w` : the instruction of the first enabled extension that has one for `w`;
* `Isa.opcodes`, `Isa.mnemonics`, `Isa.recognizes` : what an instruction set can decode.
-/

namespace Rv32

namespace Extension

/-- The operation of `e` under opcode `k` whose encoding accepts the word. -/
def operationAt? (e : Extension) (k : Opcode) (w : Word) : Option Mnemonic :=
  e.mnemonics.find? fun m => m.encoding.opcode == k && decide (m.encoding.Accepts w.value)

def decodeAt (e : Extension) (k : Opcode) (w : Word) : Except DecodeError Instruction :=
  match e.operationAt? k w with
  | some m => .ok (m.instruction w)
  | none => .error (.unknownEncoding w.opcode w)

def decode? (e : Extension) (w : Word) : Option Instruction :=
  (e.operationAt? w.opcode w).map (·.instruction w)

end Extension

namespace Isa

/-- The opcodes that an enabled extension uses, in ascending order. -/
def opcodes (s : Isa) : List Opcode :=
  Opcode.all.filter fun k => s.extensions.any fun e => e.opcodes.contains k

/-- The operations of the enabled extensions, in order. -/
def mnemonics (s : Isa) : List Mnemonic :=
  Mnemonic.all.filter fun m => s.supports m.extension

/-- The text names an operation of an enabled extension. -/
def recognizes (s : Isa) (name : String) : Bool :=
  match Mnemonic.parse name with
  | .ok m => s.mnemonics.contains m
  | .error _ => false

def decode (s : Isa) (w : Word) : Except DecodeError Instruction :=
  if s.opcodes.contains w.opcode then
    match s.extensions.findSome? (·.decode? w) with
    | some i => .ok i
    | none => .error (.unknownEncoding w.opcode w)
  else .error (.unsupportedOpcode w.opcode)

/-- Decodes a number, as a word of the width that it selects. -/
def decodeValue (s : Isa) (v : Nat) : Except DecodeError Instruction := s.decode (.ofValue v)

/-- Decodes a word written as a hexadecimal number. -/
def decodeHex (s : Isa) (text : String) : Except DecodeError Instruction :=
  Word.ofHex text >>= s.decode

end Isa

end Rv32
