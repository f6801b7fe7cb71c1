import Rv32.Operation.Form

/-!
# Compressed operations

The operations of the C extension, half a word each: `CompressedOp.form` gives the name, kind and
encoding of each, by quadrant and by `funct3` in bits 15 to 13.
-/

namespace Rv32

/-- The operations of RVC on RV32. -/
inductive CompressedOp where
  | addi4spn | fld | lw | flw | fsd | sw | fsw
  | nop | addi | jal | li | addi16sp | lui | srli | srai | andi | sub | xor | or | and | j | beqz | bnez
  | slli | fldsp | lwsp | flwsp | jr | mv | ebreak | jalr | add | fsdsp | swsp | fswsp
deriving DecidableEq, Ord

namespace CompressedOp

def all : List CompressedOp :=
  [addi4spn, fld, lw, flw, fsd, sw, fsw,
   nop, addi, jal, li, addi16sp, lui, srli, srai, andi, sub, xor, or, and, j, beqz, bnez,
   slli, fldsp, lwsp, flwsp, jr, mv, ebreak, jalr, add, fsdsp, swsp, fswsp]

theorem mem_all (op : CompressedOp) : op ∈ all := by cases op <;> decide

/-! ## Operand fields -/

def sp : RegisterField := .implied .sp
def ra : RegisterField := .implied .ra

/-- The second register, in bits 6 to 2. -/
def second (file : RegisterFile) : RegisterField := .wide file 2

/-- The first register of a short pair, in bits 9 to 7. -/
def shortFirst : RegisterField := .narrow .x 7

/-- The second register of a short pair, in bits 4 to 2. -/
def shortSecond (file : RegisterFile) : RegisterField := .narrow file 2

/-- A shift amount in bits 6 to 2. -/
def shift : Immediate := .unsigned 6 2

/-! ## Reserved patterns -/

def firstIs (n : Nat) : Pattern := .ofFields [(11, 7, n)]
def secondIsZero : Pattern := .ofFields [(6, 2, 0)]

/-- The number in bits 12 and 6 to 2 is zero. -/
def smallIsZero : Pattern := .ofFields [(12, 12, 0), (6, 2, 0)]

/-! ## Encodings -/

def loadFrom (file : RegisterFile) (funct3 : Nat) (offset : Immediate) : Encoding :=
  { opcode := .quadrant 0, format := .cl, fixed := .ofFields [(15, 13, funct3)]
    dest := [shortSecond file], src := [shortFirst], imm := [offset] }

def storeTo (file : RegisterFile) (funct3 : Nat) (offset : Immediate) : Encoding :=
  { opcode := .quadrant 0, format := .cs, fixed := .ofFields [(15, 13, funct3)]
    src := [shortFirst, shortSecond file], imm := [offset] }

def shiftRight (funct2 : Nat) : Encoding :=
  { opcode := .quadrant 1, format := .cb
    fixed := .ofFields [(15, 13, 0b100), (12, 12, 0), (11, 10, funct2)]
    dest := [shortFirst], src := [shortFirst], imm := [shift] }

def arithmetic (funct2 : Nat) : Encoding :=
  { opcode := .quadrant 1, format := .ca
    fixed := .ofFields [(15, 13, 0b100), (12, 12, 0), (11, 10, 0b11), (6, 5, funct2)]
    dest := [shortFirst], src := [shortFirst, shortSecond .x] }

def branchIf (funct3 : Nat) : Encoding :=
  { opcode := .quadrant 1, format := .cb, fixed := .ofFields [(15, 13, funct3)]
    src := [shortFirst], imm := [.branchOffset] }

def loadStack (file : RegisterFile) (funct3 : Nat) (offset : Immediate)
    (reserved : List Pattern) : Encoding :=
  { opcode := .quadrant 2, format := .ci, fixed := .ofFields [(15, 13, funct3)], reserved
    dest := [.wide file 7], src := [sp], imm := [offset] }

def storeStack (file : RegisterFile) (funct3 : Nat) (offset : Immediate) : Encoding :=
  { opcode := .quadrant 2, format := .css, fixed := .ofFields [(15, 13, funct3)]
    src := [sp, second file], imm := [offset] }

def form : CompressedOp → Form
  | addi4spn => ⟨"c.addi4spn", { opcode := .quadrant 0, format := .ciw
                                 fixed := .ofFields [(15, 13, 0b000)]
                                 reserved := [.ofFields [(12, 5, 0)]]
                                 dest := [shortSecond .x], src := [sp], imm := [.stackAddress] }, .other⟩
  | fld => ⟨"c.fld", loadFrom .f 0b001 .doubleOffset, .load⟩
  | lw => ⟨"c.lw", loadFrom .x 0b010 .wordOffset, .load⟩
  | flw => ⟨"c.flw", loadFrom .f 0b011 .wordOffset, .load⟩
  | fsd => ⟨"c.fsd", storeTo .f 0b101 .doubleOffset, .store⟩
  | sw => ⟨"c.sw", storeTo .x 0b110 .wordOffset, .store⟩
  | fsw => ⟨"c.fsw", storeTo .f 0b111 .wordOffset, .store⟩
  | nop => ⟨"c.nop", { opcode := .quadrant 1, format := .ci
                       fixed := .ofFields [(15, 13, 0b000), (11, 7, 0)] }, .other⟩
  | addi => ⟨"c.addi", { opcode := .quadrant 1, format := .ci
                         fixed := .ofFields [(15, 13, 0b000)], reserved := [firstIs 0]
                         dest := [.rd], src := [.rd], imm := [.small] }, .other⟩
  | jal => ⟨"c.jal", { opcode := .quadrant 1, format := .cj, fixed := .ofFields [(15, 13, 0b001)]
                       dest := [ra], imm := [.jumpOffset] }, .jumpPcRelative⟩
  | li => ⟨"c.li", { opcode := .quadrant 1, format := .ci, fixed := .ofFields [(15, 13, 0b010)]
                     dest := [.rd], imm := [.small] }, .other⟩
  | addi16sp => ⟨"c.addi16sp", { opcode := .quadrant 1, format := .ci
                                 fixed := .ofFields [(15, 13, 0b011), (11, 7, 2)]
                                 reserved := [smallIsZero]
                                 dest := [sp], src := [sp], imm := [.stackStep] }, .other⟩
  | lui => ⟨"c.lui", { opcode := .quadrant 1, format := .ci, fixed := .ofFields [(15, 13, 0b011)]
                       reserved := [firstIs 2, smallIsZero]
                       dest := [.rd], imm := [.smallUpper] }, .other⟩
  | srli => ⟨"c.srli", shiftRight 0b00, .other⟩
  | srai => ⟨"c.srai", shiftRight 0b01, .other⟩
  | andi => ⟨"c.andi", { opcode := .quadrant 1, format := .cb
                         fixed := .ofFields [(15, 13, 0b100), (11, 10, 0b10)]
                         dest := [shortFirst], src := [shortFirst], imm := [.small] }, .other⟩
  | sub => ⟨"c.sub", arithmetic 0b00, .other⟩
  | xor => ⟨"c.xor", arithmetic 0b01, .other⟩
  | or => ⟨"c.or", arithmetic 0b10, .other⟩
  | and => ⟨"c.and", arithmetic 0b11, .other⟩
  | j => ⟨"c.j", { opcode := .quadrant 1, format := .cj, fixed := .ofFields [(15, 13, 0b101)]
                   imm := [.jumpOffset] }, .jumpPcRelative⟩
  | beqz => ⟨"c.beqz", branchIf 0b110, .branch⟩
  | bnez => ⟨"c.bnez", branchIf 0b111, .branch⟩
  | slli => ⟨"c.slli", { opcode := .quadrant 2, format := .ci
                         fixed := .ofFields [(15, 13, 0b000), (12, 12, 0)]
                         dest := [.rd], src := [.rd], imm := [shift] }, .other⟩
  | fldsp => ⟨"c.fldsp", loadStack .f 0b001 .stackLoadDouble [], .load⟩
  | lwsp => ⟨"c.lwsp", loadStack .x 0b010 .stackLoadWord [firstIs 0], .load⟩
  | flwsp => ⟨"c.flwsp", loadStack .f 0b011 .stackLoadWord [], .load⟩
  | jr => ⟨"c.jr", { opcode := .quadrant 2, format := .cr
                     fixed := .ofFields [(15, 12, 0b1000), (6, 2, 0)], reserved := [firstIs 0]
                     src := [.rd] }, .jump⟩
  | mv => ⟨"c.mv", { opcode := .quadrant 2, format := .cr, fixed := .ofFields [(15, 12, 0b1000)]
                     reserved := [secondIsZero], dest := [.rd], src := [second .x] }, .other⟩
  | ebreak => ⟨"c.ebreak", { opcode := .quadrant 2, format := .cr
                             fixed := .ofFields [(15, 12, 0b1001), (11, 7, 0), (6, 2, 0)] }, .other⟩
  | jalr => ⟨"c.jalr", { opcode := .quadrant 2, format := .cr
                         fixed := .ofFields [(15, 12, 0b1001), (6, 2, 0)], reserved := [firstIs 0]
                         dest := [ra], src := [.rd] }, .jump⟩
  | add => ⟨"c.add", { opcode := .quadrant 2, format := .cr, fixed := .ofFields [(15, 12, 0b1001)]
                       reserved := [secondIsZero], dest := [.rd], src := [.rd, second .x] }, .other⟩
  | fsdsp => ⟨"c.fsdsp", storeStack .f 0b101 .stackStoreDouble, .store⟩
  | swsp => ⟨"c.swsp", storeStack .x 0b110 .stackStoreWord, .store⟩
  | fswsp => ⟨"c.fswsp", storeStack .f 0b111 .stackStoreWord, .store⟩

end CompressedOp

end Rv32
