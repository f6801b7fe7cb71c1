import Rv32.Operation.Form

/-!
# Vector operations

The operations of the V extension: `VectorOp.form` gives the name and encoding of each. Arithmetic
is selected by `funct6` in bits 31 to 26 and takes its second operand from a vector, a register or an
immediate; memory operations are selected by the width of an element.
-/

namespace Rv32

/-- The operations of RVV: configuration, memory, integer arithmetic, multiplication and division. -/
inductive VectorOp where
  | vsetvli | vsetivli | vsetvl | vle8 | vle16 | vle32 | vle64
  | vlse8 | vlse16 | vlse32 | vlse64 | vse8 | vse16 | vse32 | vse64
  | vsse8 | vsse16 | vsse32 | vsse64 | vaddVv | vaddVx | vaddVi | vsubVv | vsubVx
  | vrsubVx | vrsubVi | vminuVv | vminuVx | vminVv | vminVx | vmaxuVv | vmaxuVx
  | vmaxVv | vmaxVx | vandVv | vandVx | vandVi | vorVv | vorVx | vorVi
  | vxorVv | vxorVx | vxorVi | vmergeVvm | vmergeVxm | vmergeVim | vmvVV | vmvVX | vmvVI
  | vmseqVv | vmseqVx | vmseqVi | vmsneVv | vmsneVx | vmsneVi | vmsltuVv | vmsltuVx
  | vmsltVv | vmsltVx | vmsleuVv | vmsleuVx | vmsleuVi | vmsleVv | vmsleVx | vmsleVi
  | vmsgtuVx | vmsgtuVi | vmsgtVx | vmsgtVi | vsllVv | vsllVx | vsllVi
  | vsrlVv | vsrlVx | vsrlVi | vsraVv | vsraVx | vsraVi | vmulVv | vmulVx | vmulhVv | vmulhVx
  | vmulhuVv | vmulhuVx | vmulhsuVv | vmulhsuVx | vdivVv | vdivVx | vdivuVv | vdivuVx
  | vremVv | vremVx | vremuVv | vremuVx
deriving DecidableEq, Ord

namespace VectorOp

def all : List VectorOp :=
  [vsetvli, vsetivli, vsetvl, vle8, vle16, vle32, vle64, vlse8, vlse16, vlse32, vlse64,
   vse8, vse16, vse32, vse64, vsse8, vsse16, vsse32, vsse64, vaddVv, vaddVx, vaddVi,
   vsubVv, vsubVx, vrsubVx, vrsubVi, vminuVv, vminuVx, vminVv, vminVx, vmaxuVv, vmaxuVx,
   vmaxVv, vmaxVx, vandVv, vandVx, vandVi, vorVv, vorVx, vorVi, vxorVv, vxorVx, vxorVi,
   vmergeVvm, vmergeVxm, vmergeVim, vmvVV, vmvVX, vmvVI, vmseqVv, vmseqVx, vmseqVi,
   vmsneVv, vmsneVx, vmsneVi, vmsltuVv, vmsltuVx, vmsltVv, vmsltVx, vmsleuVv, vmsleuVx, vmsleuVi,
   vmsleVv, vmsleVx, vmsleVi, vmsgtuVx, vmsgtuVi, vmsgtVx, vmsgtVi, vsllVv, vsllVx, vsllVi,
   vsrlVv, vsrlVx, vsrlVi, vsraVv, vsraVx, vsraVi, vmulVv, vmulVx, vmulhVv, vmulhVx,
   vmulhuVv, vmulhuVx, vmulhsuVv, vmulhsuVx, vdivVv, vdivVx, vdivuVv, vdivuVx, vremVv, vremVx,
   vremuVv, vremuVx]

theorem mem_all (op : VectorOp) : op ∈ all := by cases op <;> decide

/-! ## Memory -/

/-- Consecutive elements: one segment, no extended widths, no special mode. -/
def unit (width : Nat) : Pattern :=
  .ofFields [(31, 29, 0), (28, 28, 0), (27, 26, 0b00), (24, 20, 0), (14, 12, width)]

/-- Elements at a distance that a register holds. -/
def strided (width : Nat) : Pattern :=
  .ofFields [(31, 29, 0), (28, 28, 0), (27, 26, 0b10), (14, 12, width)]

def unitLoad (width : Nat) : Encoding :=
  { opcode := .loadFp, format := .vl, fixed := unit width
    dest := [.vd], src := [.rs1], masking := .chosen }

def stridedLoad (width : Nat) : Encoding :=
  { opcode := .loadFp, format := .vl, fixed := strided width
    dest := [.vd], src := [.rs1, .rs2], masking := .chosen }

def unitStore (width : Nat) : Encoding :=
  { opcode := .storeFp, format := .vs, fixed := unit width
    src := [.vd, .rs1], masking := .chosen }

def stridedStore (width : Nat) : Encoding :=
  { opcode := .storeFp, format := .vs, fixed := strided width
    src := [.vd, .rs1, .rs2], masking := .chosen }

/-! ## Arithmetic -/

def arith (funct6 funct3 : Nat) (src : List RegisterField) (imm : List Immediate) : Encoding :=
  { opcode := .opV, format := .v, fixed := .ofFields [(31, 26, funct6), (14, 12, funct3)]
    dest := [.vd], src, imm, masking := .chosen }

def arithVector (funct6 : Nat) : Encoding := arith funct6 0b000 [.vs2, .vs1] []
def arithScalar (funct6 : Nat) : Encoding := arith funct6 0b100 [.vs2, .rs1] []
def arithSigned (funct6 : Nat) : Encoding := arith funct6 0b011 [.vs2] [.simm]
def arithUnsigned (funct6 : Nat) : Encoding := arith funct6 0b011 [.vs2] [.uimm]
def multiplyVector (funct6 : Nat) : Encoding := arith funct6 0b010 [.vs2, .vs1] []
def multiplyScalar (funct6 : Nat) : Encoding := arith funct6 0b110 [.vs2, .rs1] []

/-- Chooses between the elements of two operands by the mask. -/
def merge (funct3 : Nat) (src : List RegisterField) (imm : List Immediate) : Encoding :=
  { opcode := .opV, format := .v
    fixed := .ofFields [(31, 26, 0b010111), (25, 25, 0), (14, 12, funct3)]
    dest := [.vd], src, imm, masking := .always .v0True }

def mergeVector : Encoding := merge 0b000 [.vs2, .vs1] []
def mergeScalar : Encoding := merge 0b100 [.vs2, .rs1] []
def mergeSigned : Encoding := merge 0b011 [.vs2] [.simm]

/-- Sets all elements from the one operand. -/
def move (funct3 : Nat) (src : List RegisterField) (imm : List Immediate) : Encoding :=
  { opcode := .opV, format := .v
    fixed := .ofFields [(31, 26, 0b010111), (25, 25, 1), (24, 20, 0), (14, 12, funct3)]
    dest := [.vd], src, imm, masking := .always .unmasked }

def moveVector : Encoding := move 0b000 [.vs1] []
def moveScalar : Encoding := move 0b100 [.rs1] []
def moveSigned : Encoding := move 0b011 [] [.simm]

def form : VectorOp → Form
  | vsetvli => ⟨"vsetvli", { opcode := .opV, format := .v
                             fixed := .ofFields [(31, 31, 0), (14, 12, 0b111)]
                             dest := [.rd], src := [.rs1], imm := [.vtype] }, .other⟩
  | vsetivli => ⟨"vsetivli", { opcode := .opV, format := .v
                               fixed := .ofFields [(31, 30, 0b11), (14, 12, 0b111)]
                               dest := [.rd], imm := [.uimm, .vtypeShort] }, .other⟩
  | vsetvl => ⟨"vsetvl", { opcode := .opV, format := .v
                           fixed := .ofFields [(31, 25, 0b1000000), (14, 12, 0b111)]
                           dest := [.rd], src := [.rs1, .rs2] }, .other⟩
  | vle8 => ⟨"vle8.v", unitLoad 0b000, .other⟩
  | vle16 => ⟨"vle16.v", unitLoad 0b101, .other⟩
  | vle32 => ⟨"vle32.v", unitLoad 0b110, .other⟩
  | vle64 => ⟨"vle64.v", unitLoad 0b111, .other⟩
  | vlse8 => ⟨"vlse8.v", stridedLoad 0b000, .other⟩
  | vlse16 => ⟨"vlse16.v", stridedLoad 0b101, .other⟩
  | vlse32 => ⟨"vlse32.v", stridedLoad 0b110, .other⟩
  | vlse64 => ⟨"vlse64.v", stridedLoad 0b111, .other⟩
  | vse8 => ⟨"vse8.v", unitStore 0b000, .other⟩
  | vse16 => ⟨"vse16.v", unitStore 0b101, .other⟩
  | vse32 => ⟨"vse32.v", unitStore 0b110, .other⟩
  | vse64 => ⟨"vse64.v", unitStore 0b111, .other⟩
  | vsse8 => ⟨"vsse8.v", stridedStore 0b000, .other⟩
  | vsse16 => ⟨"vsse16.v", stridedStore 0b101, .other⟩
  | vsse32 => ⟨"vsse32.v", stridedStore 0b110, .other⟩
  | vsse64 => ⟨"vsse64.v", stridedStore 0b111, .other⟩
  | vaddVv => ⟨"vadd.vv", arithVector 0b000000, .other⟩
  | vaddVx => ⟨"vadd.vx", arithScalar 0b000000, .other⟩
  | vaddVi => ⟨"vadd.vi", arithSigned 0b000000, .other⟩
  | vsubVv => ⟨"vsub.vv", arithVector 0b000010, .other⟩
  | vsubVx => ⟨"vsub.vx", arithScalar 0b000010, .other⟩
  | vrsubVx => ⟨"vrsub.vx", arithScalar 0b000011, .other⟩
  | vrsubVi => ⟨"vrsub.vi", arithSigned 0b000011, .other⟩
  | vminuVv => ⟨"vminu.vv", arithVector 0b000100, .other⟩
  | vminuVx => ⟨"vminu.vx", arithScalar 0b000100, .other⟩
  | vminVv => ⟨"vmin.vv", arithVector 0b000101, .other⟩
  | vminVx => ⟨"vmin.vx", arithScalar 0b000101, .other⟩
  | vmaxuVv => ⟨"vmaxu.vv", arithVector 0b000110, .other⟩
  | vmaxuVx => ⟨"vmaxu.vx", arithScalar 0b000110, .other⟩
  | vmaxVv => ⟨"vmax.vv", arithVector 0b000111, .other⟩
  | vmaxVx => ⟨"vmax.vx", arithScalar 0b000111, .other⟩
  | vandVv => ⟨"vand.vv", arithVector 0b001001, .other⟩
  | vandVx => ⟨"vand.vx", arithScalar 0b001001, .other⟩
  | vandVi => ⟨"vand.vi", arithSigned 0b001001, .other⟩
  | vorVv => ⟨"vor.vv", arithVector 0b001010, .other⟩
  | vorVx => ⟨"vor.vx", arithScalar 0b001010, .other⟩
  | vorVi => ⟨"vor.vi", arithSigned 0b001010, .other⟩
  | vxorVv => ⟨"vxor.vv", arithVector 0b001011, .other⟩
  | vxorVx => ⟨"vxor.vx", arithScalar 0b001011, .other⟩
  | vxorVi => ⟨"vxor.vi", arithSigned 0b001011, .other⟩
  | vmergeVvm => ⟨"vmerge.vvm", mergeVector, .other⟩
  | vmergeVxm => ⟨"vmerge.vxm", mergeScalar, .other⟩
  | vmergeVim => ⟨"vmerge.vim", mergeSigned, .other⟩
  | vmvVV => ⟨"vmv.v.v", moveVector, .other⟩
  | vmvVX => ⟨"vmv.v.x", moveScalar, .other⟩
  | vmvVI => ⟨"vmv.v.i", moveSigned, .other⟩
  | vmseqVv => ⟨"vmseq.vv", arithVector 0b011000, .other⟩
  | vmseqVx => ⟨"vmseq.vx", arithScalar 0b011000, .other⟩
  | vmseqVi => ⟨"vmseq.vi", arithSigned 0b011000, .other⟩
  | vmsneVv => ⟨"vmsne.vv", arithVector 0b011001, .other⟩
  | vmsneVx => ⟨"vmsne.vx", arithScalar 0b011001, .other⟩
  | vmsneVi => ⟨"vmsne.vi", arithSigned 0b011001, .other⟩
  | vmsltuVv => ⟨"vmsltu.vv", arithVector 0b011010, .other⟩
  | vmsltuVx => ⟨"vmsltu.vx", arithScalar 0b011010, .other⟩
  | vmsltVv => ⟨"vmslt.vv", arithVector 0b011011, .other⟩
  | vmsltVx => ⟨"vmslt.vx", arithScalar 0b011011, .other⟩
  | vmsleuVv => ⟨"vmsleu.vv", arithVector 0b011100, .other⟩
  | vmsleuVx => ⟨"vmsleu.vx", arithScalar 0b011100, .other⟩
  | vmsleuVi => ⟨"vmsleu.vi", arithSigned 0b011100, .other⟩
  | vmsleVv => ⟨"vmsle.vv", arithVector 0b011101, .other⟩
  | vmsleVx => ⟨"vmsle.vx", arithScalar 0b011101, .other⟩
  | vmsleVi => ⟨"vmsle.vi", arithSigned 0b011101, .other⟩
  | vmsgtuVx => ⟨"vmsgtu.vx", arithScalar 0b011110, .other⟩
  | vmsgtuVi => ⟨"vmsgtu.vi", arithSigned 0b011110, .other⟩
  | vmsgtVx => ⟨"vmsgt.vx", arithScalar 0b011111, .other⟩
  | vmsgtVi => ⟨"vmsgt.vi", arithSigned 0b011111, .other⟩
  | vsllVv => ⟨"vsll.vv", arithVector 0b100101, .other⟩
  | vsllVx => ⟨"vsll.vx", arithScalar 0b100101, .other⟩
  | vsllVi => ⟨"vsll.vi", arithUnsigned 0b100101, .other⟩
  | vsrlVv => ⟨"vsrl.vv", arithVector 0b101000, .other⟩
  | vsrlVx => ⟨"vsrl.vx", arithScalar 0b101000, .other⟩
  | vsrlVi => ⟨"vsrl.vi", arithUnsigned 0b101000, .other⟩
  | vsraVv => ⟨"vsra.vv", arithVector 0b101001, .other⟩
  | vsraVx => ⟨"vsra.vx", arithScalar 0b101001, .other⟩
  | vsraVi => ⟨"vsra.vi", arithUnsigned 0b101001, .other⟩
  | vmulVv => ⟨"vmul.vv", multiplyVector 0b100101, .other⟩
  | vmulVx => ⟨"vmul.vx", multiplyScalar 0b100101, .other⟩
  | vmulhVv => ⟨"vmulh.vv", multiplyVector 0b100111, .other⟩
  | vmulhVx => ⟨"vmulh.vx", multiplyScalar 0b100111, .other⟩
  | vmulhuVv => ⟨"vmulhu.vv", multiplyVector 0b100100, .other⟩
  | vmulhuVx => ⟨"vmulhu.vx", multiplyScalar 0b100100, .other⟩
  | vmulhsuVv => ⟨"vmulhsu.vv", multiplyVector 0b100110, .other⟩
  | vmulhsuVx => ⟨"vmulhsu.vx", multiplyScalar 0b100110, .other⟩
  | vdivVv => ⟨"vdiv.vv", multiplyVector 0b100001, .other⟩
  | vdivVx => ⟨"vdiv.vx", multiplyScalar 0b100001, .other⟩
  | vdivuVv => ⟨"vdivu.vv", multiplyVector 0b100000, .other⟩
  | vdivuVx => ⟨"vdivu.vx", multiplyScalar 0b100000, .other⟩
  | vremVv => ⟨"vrem.vv", multiplyVector 0b100011, .other⟩
  | vremVx => ⟨"vrem.vx", multiplyScalar 0b100011, .other⟩
  | vremuVv => ⟨"vremu.vv", multiplyVector 0b100010, .other⟩
  | vremuVx => ⟨"vremu.vx", multiplyScalar 0b100010, .other⟩

end VectorOp

end Rv32
