import Rv32.Operation.Form

/-!
# Integer operations

The operations of the base set: `IntegerOp.form` gives the name, kind and encoding of each.
-/

namespace Rv32

/-- The operations of RV32I. -/
inductive IntegerOp where
  | lui | auipc | jal | jalr
  | beq | bne | blt | bge | bltu | bgeu
  | lb | lh | lw | lbu | lhu | sb | sh | sw
  | addi | slti | sltiu | xori | ori | andi | slli | srli | srai
  | add | sub | sll | slt | sltu | xor | srl | sra | or | and
  | fence | fenceI | ecall | ebreak
  | csrrw | csrrs | csrrc | csrrwi | csrrsi | csrrci
deriving DecidableEq, Ord

namespace IntegerOp

def all : List IntegerOp :=
  [lui, auipc, jal, jalr,
   beq, bne, blt, bge, bltu, bgeu,
   lb, lh, lw, lbu, lhu, sb, sh, sw,
   addi, slti, sltiu, xori, ori, andi, slli, srli, srai,
   add, sub, sll, slt, sltu, xor, srl, sra, or, and,
   fence, fenceI, ecall, ebreak,
   csrrw, csrrs, csrrc, csrrwi, csrrsi, csrrci]

theorem mem_all (op : IntegerOp) : op ∈ all := by cases op <;> decide

/-! ## Encodings, by `funct3` in bits 14 to 12 and `funct7` in bits 31 to 25 -/

def upperImmediate (opcode : Opcode) : Encoding :=
  { opcode, format := .u, dest := [.rd], imm := [.u] }

def branchIf (funct3 : Nat) : Encoding :=
  { opcode := .branch, format := .b, fixed := .ofFields [(14, 12, funct3)]
    src := [.rs1, .rs2], imm := [.b] }

/-- One register and a signed number to one register. -/
def registerImmediate (opcode : Opcode) (funct3 : Nat) : Encoding :=
  { opcode, format := .i, fixed := .ofFields [(14, 12, funct3)]
    dest := [.rd], src := [.rs1], imm := [.i] }

def storeTo (funct3 : Nat) : Encoding :=
  { opcode := .store, format := .s, fixed := .ofFields [(14, 12, funct3)]
    src := [.rs1, .rs2], imm := [.s] }

def shiftImmediate (funct7 funct3 : Nat) : Encoding :=
  { opcode := .opImm, format := .i, fixed := .ofFields [(31, 25, funct7), (14, 12, funct3)]
    dest := [.rd], src := [.rs1], imm := [.shamt] }

/-- Two registers to one register. -/
def registers (funct7 funct3 : Nat) : Encoding :=
  { opcode := .op, format := .r, fixed := .ofFields [(31, 25, funct7), (14, 12, funct3)]
    dest := [.rd], src := [.rs1, .rs2] }

/-- The two operations that are one word each. -/
def environment (w : BitVec 32) : Encoding :=
  { opcode := .system, format := .i, fixed := .word w }

/-- Exchanges a control and status register with a register. -/
def csrRegister (funct3 : Nat) : Encoding :=
  { opcode := .system, format := .i, fixed := .ofFields [(14, 12, funct3)]
    dest := [.rd], src := [.rs1], imm := [.csr] }

/-- Exchanges a control and status register with a number. -/
def csrImmediate (funct3 : Nat) : Encoding :=
  { opcode := .system, format := .i, fixed := .ofFields [(14, 12, funct3)]
    dest := [.rd], imm := [.csr, .uimm] }

def form : IntegerOp → Form
  | lui => ⟨"lui", upperImmediate .lui, .other⟩
  | auipc => ⟨"auipc", upperImmediate .auipc, .other⟩
  | jal => ⟨"jal", { opcode := .jal, format := .j, dest := [.rd], imm := [.j] }, .jumpPcRelative⟩
  | jalr => ⟨"jalr", registerImmediate .jalr 0b000, .jump⟩
  | beq => ⟨"beq", branchIf 0b000, .branch⟩
  | bne => ⟨"bne", branchIf 0b001, .branch⟩
  | blt => ⟨"blt", branchIf 0b100, .branch⟩
  | bge => ⟨"bge", branchIf 0b101, .branch⟩
  | bltu => ⟨"bltu", branchIf 0b110, .branch⟩
  | bgeu => ⟨"bgeu", branchIf 0b111, .branch⟩
  | lb => ⟨"lb", registerImmediate .load 0b000, .load⟩
  | lh => ⟨"lh", registerImmediate .load 0b001, .load⟩
  | lw => ⟨"lw", registerImmediate .load 0b010, .load⟩
  | lbu => ⟨"lbu", registerImmediate .load 0b100, .load⟩
  | lhu => ⟨"lhu", registerImmediate .load 0b101, .load⟩
  | sb => ⟨"sb", storeTo 0b000, .store⟩
  | sh => ⟨"sh", storeTo 0b001, .store⟩
  | sw => ⟨"sw", storeTo 0b010, .store⟩
  | addi => ⟨"addi", registerImmediate .opImm 0b000, .other⟩
  | slti => ⟨"slti", registerImmediate .opImm 0b010, .other⟩
  | sltiu => ⟨"sltiu", registerImmediate .opImm 0b011, .other⟩
  | xori => ⟨"xori", registerImmediate .opImm 0b100, .other⟩
  | ori => ⟨"ori", registerImmediate .opImm 0b110, .other⟩
  | andi => ⟨"andi", registerImmediate .opImm 0b111, .other⟩
  | slli => ⟨"slli", shiftImmediate 0b0000000 0b001, .other⟩
  | srli => ⟨"srli", shiftImmediate 0b0000000 0b101, .other⟩
  | srai => ⟨"srai", shiftImmediate 0b0100000 0b101, .other⟩
  | add => ⟨"add", registers 0b0000000 0b000, .other⟩
  | sub => ⟨"sub", registers 0b0100000 0b000, .other⟩
  | sll => ⟨"sll", registers 0b0000000 0b001, .other⟩
  | slt => ⟨"slt", registers 0b0000000 0b010, .other⟩
  | sltu => ⟨"sltu", registers 0b0000000 0b011, .other⟩
  | xor => ⟨"xor", registers 0b0000000 0b100, .other⟩
  | srl => ⟨"srl", registers 0b0000000 0b101, .other⟩
  | sra => ⟨"sra", registers 0b0100000 0b101, .other⟩
  | or => ⟨"or", registers 0b0000000 0b110, .other⟩
  | and => ⟨"and", registers 0b0000000 0b111, .other⟩
  | fence => ⟨"fence", { opcode := .miscMem, format := .i, fixed := .ofFields [(14, 12, 0b000)]
                         imm := [.pred, .succ] }, .other⟩
  | fenceI => ⟨"fence.i", { opcode := .miscMem, format := .i
                            fixed := .ofFields [(14, 12, 0b001)] }, .other⟩
  | ecall => ⟨"ecall", environment 0x00000073, .other⟩
  | ebreak => ⟨"ebreak", environment 0x00100073, .other⟩
  | csrrw => ⟨"csrrw", csrRegister 0b001, .other⟩
  | csrrs => ⟨"csrrs", csrRegister 0b010, .other⟩
  | csrrc => ⟨"csrrc", csrRegister 0b011, .other⟩
  | csrrwi => ⟨"csrrwi", csrImmediate 0b101, .other⟩
  | csrrsi => ⟨"csrrsi", csrImmediate 0b110, .other⟩
  | csrrci => ⟨"csrrci", csrImmediate 0b111, .other⟩

end IntegerOp

end Rv32
