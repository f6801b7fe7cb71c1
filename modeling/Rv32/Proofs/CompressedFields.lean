import Rv32.Proofs.Fields

/-!
# Half words and their fields

The layouts of the half words of RVC, bit by bit from the top down, with immediates scrambled as the
manual lists them: `Half.ciw`, `Half.cl` and so on build a word from its fields. For each of them a
lemma such as `Half.ciw_eq_iff` says that a half word is built from the fields that it reads back to.
What a field of fixed bits holds is said by its number, as patterns do; what a field of an operand
holds, by the operand.
-/

namespace Rv32

/-- The registers 8 to 15 of a file by the number in three bits. -/
def Register.short (file : RegisterFile) (r : BitVec 3) : Register := ⟨file, 8 + r.toNat⟩

/-- Accesses to memory by their size. -/
inductive Access where
  | word
  | double

namespace Access

def bytes : Access → Int
  | word => 4
  | double => 8

def offset : Access → Immediate
  | word => .wordOffset
  | double => .doubleOffset

def loadOffset : Access → Immediate
  | word => .stackLoadWord
  | double => .stackLoadDouble

def storeOffset : Access → Immediate
  | word => .stackStoreWord
  | double => .stackStoreDouble

end Access

namespace Half

/-! ## Quadrant 0 -/

def ciw (n : Int) (rd : BitVec 3) : BitVec 16 :=
  let u := BitVec.ofInt 10 n
  0b000#3 ++ u.extractLsb 5 4 ++ u.extractLsb 9 6 ++ u.extractLsb 2 2 ++ u.extractLsb 3 3 ++ rd ++
    0b00#2

/-- Loads and stores. -/
def cl (k : Access) (funct3 : BitVec 3) (n : Int) (first second : BitVec 3) : BitVec 16 :=
  match k with
  | .word =>
    let u := BitVec.ofInt 7 n
    funct3 ++ u.extractLsb 5 3 ++ first ++ u.extractLsb 2 2 ++ u.extractLsb 6 6 ++ second ++ 0b00#2
  | .double =>
    let u := BitVec.ofInt 8 n
    funct3 ++ u.extractLsb 5 3 ++ first ++ u.extractLsb 7 6 ++ second ++ 0b00#2

/-! ## Quadrant 1 -/

/-- The words of `c.nop`, two of whose fields have any bits. -/
def nop (high : BitVec 1) (low : BitVec 5) : BitVec 16 :=
  0b000#3 ++ high ++ 0#5 ++ low ++ 0b01#2

/-- A small number for a register. -/
def small (funct3 : BitVec 3) (rd : BitVec 5) (n : Int) : BitVec 16 :=
  let u := BitVec.ofInt 6 n
  funct3 ++ u.extractLsb 5 5 ++ rd ++ u.extractLsb 4 0 ++ 0b01#2

def addi16sp (n : Int) : BitVec 16 :=
  let u := BitVec.ofInt 10 n
  0b011#3 ++ u.extractLsb 9 9 ++ 2#5 ++ u.extractLsb 4 4 ++ u.extractLsb 6 6 ++ u.extractLsb 8 7 ++
    u.extractLsb 5 5 ++ 0b01#2

def lui (rd : BitVec 5) (n : Int) : BitVec 16 :=
  let u := BitVec.ofInt 18 n
  0b011#3 ++ u.extractLsb 17 17 ++ rd ++ u.extractLsb 16 12 ++ 0b01#2

def shiftRight (funct2 : BitVec 2) (rd : BitVec 3) (shamt : BitVec 5) : BitVec 16 :=
  0b100#3 ++ 0b0#1 ++ funct2 ++ rd ++ shamt ++ 0b01#2

def andi (rd : BitVec 3) (n : Int) : BitVec 16 :=
  let u := BitVec.ofInt 6 n
  0b100#3 ++ u.extractLsb 5 5 ++ 0b10#2 ++ rd ++ u.extractLsb 4 0 ++ 0b01#2

def ca (funct2 : BitVec 2) (rd rs2 : BitVec 3) : BitVec 16 :=
  0b100#3 ++ 0b0#1 ++ 0b11#2 ++ rd ++ funct2 ++ rs2 ++ 0b01#2

def cj (funct3 : BitVec 3) (n : Int) : BitVec 16 :=
  let u := BitVec.ofInt 12 n
  funct3 ++ u.extractLsb 11 11 ++ u.extractLsb 4 4 ++ u.extractLsb 9 8 ++ u.extractLsb 10 10 ++
    u.extractLsb 6 6 ++ u.extractLsb 7 7 ++ u.extractLsb 3 1 ++ u.extractLsb 5 5 ++ 0b01#2

/-- Branches. -/
def cb (funct3 : BitVec 3) (rs1 : BitVec 3) (n : Int) : BitVec 16 :=
  let u := BitVec.ofInt 9 n
  funct3 ++ u.extractLsb 8 8 ++ u.extractLsb 4 3 ++ rs1 ++ u.extractLsb 7 6 ++ u.extractLsb 2 1 ++
    u.extractLsb 5 5 ++ 0b01#2

/-! ## Quadrant 2 -/

def slli (rd shamt : BitVec 5) : BitVec 16 := 0b000#3 ++ 0b0#1 ++ rd ++ shamt ++ 0b10#2

/-- Loads from the stack. -/
def loadStack (k : Access) (funct3 : BitVec 3) (rd : BitVec 5) (n : Int) : BitVec 16 :=
  match k with
  | .word =>
    let u := BitVec.ofInt 8 n
    funct3 ++ u.extractLsb 5 5 ++ rd ++ u.extractLsb 4 2 ++ u.extractLsb 7 6 ++ 0b10#2
  | .double =>
    let u := BitVec.ofInt 9 n
    funct3 ++ u.extractLsb 5 5 ++ rd ++ u.extractLsb 4 3 ++ u.extractLsb 8 6 ++ 0b10#2

def css (k : Access) (funct3 : BitVec 3) (rs2 : BitVec 5) (n : Int) : BitVec 16 :=
  match k with
  | .word =>
    let u := BitVec.ofInt 8 n
    funct3 ++ u.extractLsb 5 2 ++ u.extractLsb 7 6 ++ rs2 ++ 0b10#2
  | .double =>
    let u := BitVec.ofInt 9 n
    funct3 ++ u.extractLsb 5 3 ++ u.extractLsb 8 6 ++ rs2 ++ 0b10#2

def cr (funct4 : BitVec 4) (first second : BitVec 5) : BitVec 16 :=
  funct4 ++ first ++ second ++ 0b10#2

/-- The same with one register only. -/
def crSingle (funct4 : BitVec 4) (first : BitVec 5) : BitVec 16 :=
  funct4 ++ first ++ 0#5 ++ 0b10#2

def ebreak : BitVec 16 := 0b1001#4 ++ 0#5 ++ 0#5 ++ 0b10#2

/-! ## Words with given fields -/

theorem toNat_setWidth (w : BitVec 16) : (w.setWidth 32).toNat = w.toNat := by
  rw [BitVec.toNat_setWidth]
  omega

@[simp]
theorem extractLsb'_setWidth (w : BitVec 16) (lo n : Nat) :
    (w.setWidth 32).extractLsb' lo n = w.extractLsb' lo n := by
  rw [← BitVec.toNat_inj, toNat_extractLsb', toNat_extractLsb', toNat_setWidth]

theorem ofNat_eq_piece_iff {n lo : Nat} (v : Nat) (w : BitVec 16) :
    BitVec.ofNat n v = w.extractLsb' lo n ↔ w.toNat / 2 ^ lo % 2 ^ n = v % 2 ^ n := by
  rw [← field_eq_toNat_iff, BitVec.toNat_ofNat]

variable {funct2 : BitVec 2} {funct3 : BitVec 3} {funct4 : BitVec 4} {n : Int} {w : BitVec 16}

theorem ciw_eq_iff {rd : BitVec 3} (h : Immediate.stackAddress.Admits n) : ciw n rd = w ↔
    n = Immediate.stackAddress.read (w.setWidth 32) ∧ rd = w.extractLsb' 2 3 ∧
      w.toNat / 8192 % 8 = 0b000 ∧ w.toNat % 4 = 0b00 := by
  rw [eq_iff_eq_piece, Immediate.eq_read_iff (by decide) h]
  simp only [ciw, append_eq_piece_iff, ofNat_eq_piece_iff, BitVec.extractLsb, extractLsb'_setWidth,
    Immediate.stackAddress, Slice.length, List.forall_mem_cons, Nat.reducePow, Nat.reduceAdd,
    Nat.reduceMod, Nat.div_one]
  tauto

theorem cl_eq_iff {k : Access} {first second : BitVec 3} (h : k.offset.Admits n) :
    cl k funct3 n first second = w ↔ n = k.offset.read (w.setWidth 32) ∧
      first = w.extractLsb' 7 3 ∧ second = w.extractLsb' 2 3 ∧
        w.toNat / 8192 % 8 = funct3.toNat ∧ w.toNat % 4 = 0b00 := by
  cases k with
  | word =>
    rw [Access.offset] at h ⊢
    rw [eq_iff_eq_piece, Immediate.eq_read_iff (by decide) h]
    simp only [cl, append_eq_piece_iff, ofNat_eq_piece_iff, ← field_eq_toNat_iff funct3 w,
      BitVec.extractLsb, extractLsb'_setWidth, Immediate.wordOffset, Slice.length,
      List.forall_mem_cons, Nat.reducePow, Nat.reduceAdd, Nat.reduceMod, Nat.div_one]
    tauto
  | double =>
    rw [Access.offset] at h ⊢
    rw [eq_iff_eq_piece, Immediate.eq_read_iff (by decide) h]
    simp only [cl, append_eq_piece_iff, ofNat_eq_piece_iff, ← field_eq_toNat_iff funct3 w,
      BitVec.extractLsb, extractLsb'_setWidth, Immediate.doubleOffset, Slice.length,
      List.forall_mem_cons, Nat.reducePow, Nat.reduceAdd, Nat.reduceMod, Nat.div_one]
    tauto

theorem nop_eq_iff {high : BitVec 1} {low : BitVec 5} : nop high low = w ↔
    high = w.extractLsb' 12 1 ∧ low = w.extractLsb' 2 5 ∧ w.toNat / 8192 % 8 = 0b000 ∧
      w.toNat / 128 % 32 = 0 ∧ w.toNat % 4 = 0b01 := by
  rw [eq_iff_eq_piece]
  simp only [nop, append_eq_piece_iff]
  simp only [ofNat_eq_piece_iff, Nat.reducePow, Nat.reduceAdd, Nat.reduceMod, Nat.div_one]
  tauto

theorem small_eq_iff {rd : BitVec 5} (h : Immediate.small.Admits n) : small funct3 rd n = w ↔
    n = Immediate.small.read (w.setWidth 32) ∧ rd = w.extractLsb' 7 5 ∧
      w.toNat / 8192 % 8 = funct3.toNat ∧ w.toNat % 4 = 0b01 := by
  rw [eq_iff_eq_piece, Immediate.eq_read_iff (by decide) h]
  simp only [small, append_eq_piece_iff, ofNat_eq_piece_iff, ← field_eq_toNat_iff funct3 w,
    BitVec.extractLsb, extractLsb'_setWidth, Immediate.small, Slice.length, List.forall_mem_cons,
    Nat.reducePow, Nat.reduceAdd, Nat.reduceMod, Nat.div_one]
  tauto

theorem addi16sp_eq_iff (h : Immediate.stackStep.Admits n) : addi16sp n = w ↔
    n = Immediate.stackStep.read (w.setWidth 32) ∧ w.toNat / 8192 % 8 = 0b011 ∧
      w.toNat / 128 % 32 = 2 ∧ w.toNat % 4 = 0b01 := by
  rw [eq_iff_eq_piece, Immediate.eq_read_iff (by decide) h]
  simp only [addi16sp, append_eq_piece_iff, ofNat_eq_piece_iff, BitVec.extractLsb,
    extractLsb'_setWidth, Immediate.stackStep, Slice.length, List.forall_mem_cons, Nat.reducePow,
    Nat.reduceAdd, Nat.reduceMod, Nat.div_one]
  tauto

theorem lui_eq_iff {rd : BitVec 5} (h : Immediate.smallUpper.Admits n) : lui rd n = w ↔
    n = Immediate.smallUpper.read (w.setWidth 32) ∧ rd = w.extractLsb' 7 5 ∧
      w.toNat / 8192 % 8 = 0b011 ∧ w.toNat % 4 = 0b01 := by
  rw [eq_iff_eq_piece, Immediate.eq_read_iff (by decide) h]
  simp only [lui, append_eq_piece_iff, ofNat_eq_piece_iff, BitVec.extractLsb, extractLsb'_setWidth,
    Immediate.smallUpper, Slice.length, List.forall_mem_cons, Nat.reducePow, Nat.reduceAdd,
    Nat.reduceMod, Nat.div_one]
  tauto

theorem shiftRight_eq_iff {rd : BitVec 3} {shamt : BitVec 5} : shiftRight funct2 rd shamt = w ↔
    rd = w.extractLsb' 7 3 ∧ shamt = w.extractLsb' 2 5 ∧ w.toNat / 8192 % 8 = 0b100 ∧
      w.toNat / 4096 % 2 = 0 ∧ w.toNat / 1024 % 4 = funct2.toNat ∧ w.toNat % 4 = 0b01 := by
  rw [eq_iff_eq_piece]
  simp only [shiftRight, append_eq_piece_iff]
  simp only [ofNat_eq_piece_iff, ← field_eq_toNat_iff funct2 w, Nat.reducePow, Nat.reduceAdd,
    Nat.reduceMod, Nat.div_one]
  tauto

theorem andi_eq_iff {rd : BitVec 3} (h : Immediate.small.Admits n) : andi rd n = w ↔
    n = Immediate.small.read (w.setWidth 32) ∧ rd = w.extractLsb' 7 3 ∧
      w.toNat / 8192 % 8 = 0b100 ∧ w.toNat / 1024 % 4 = 0b10 ∧ w.toNat % 4 = 0b01 := by
  rw [eq_iff_eq_piece, Immediate.eq_read_iff (by decide) h]
  simp only [andi, append_eq_piece_iff, ofNat_eq_piece_iff, BitVec.extractLsb,
    extractLsb'_setWidth, Immediate.small, Slice.length, List.forall_mem_cons, Nat.reducePow,
    Nat.reduceAdd, Nat.reduceMod, Nat.div_one]
  tauto

theorem ca_eq_iff {rd rs2 : BitVec 3} : ca funct2 rd rs2 = w ↔
    rd = w.extractLsb' 7 3 ∧ rs2 = w.extractLsb' 2 3 ∧ w.toNat / 8192 % 8 = 0b100 ∧
      w.toNat / 4096 % 2 = 0 ∧ w.toNat / 1024 % 4 = 0b11 ∧ w.toNat / 32 % 4 = funct2.toNat ∧
        w.toNat % 4 = 0b01 := by
  rw [eq_iff_eq_piece]
  simp only [ca, append_eq_piece_iff]
  simp only [ofNat_eq_piece_iff, ← field_eq_toNat_iff funct2 w, Nat.reducePow, Nat.reduceAdd,
    Nat.reduceMod, Nat.div_one]
  tauto

theorem cj_eq_iff (h : Immediate.jumpOffset.Admits n) : cj funct3 n = w ↔
    n = Immediate.jumpOffset.read (w.setWidth 32) ∧ w.toNat / 8192 % 8 = funct3.toNat ∧
      w.toNat % 4 = 0b01 := by
  rw [eq_iff_eq_piece, Immediate.eq_read_iff (by decide) h]
  simp only [cj, append_eq_piece_iff, ofNat_eq_piece_iff, ← field_eq_toNat_iff funct3 w,
    BitVec.extractLsb, extractLsb'_setWidth, Immediate.jumpOffset, Slice.length,
    List.forall_mem_cons, Nat.reducePow, Nat.reduceAdd, Nat.reduceMod, Nat.div_one]
  tauto

theorem cb_eq_iff {rs1 : BitVec 3} (h : Immediate.branchOffset.Admits n) : cb funct3 rs1 n = w ↔
    n = Immediate.branchOffset.read (w.setWidth 32) ∧ rs1 = w.extractLsb' 7 3 ∧
      w.toNat / 8192 % 8 = funct3.toNat ∧ w.toNat % 4 = 0b01 := by
  rw [eq_iff_eq_piece, Immediate.eq_read_iff (by decide) h]
  simp only [cb, append_eq_piece_iff, ofNat_eq_piece_iff, ← field_eq_toNat_iff funct3 w,
    BitVec.extractLsb, extractLsb'_setWidth, Immediate.branchOffset, Slice.length,
    List.forall_mem_cons, Nat.reducePow, Nat.reduceAdd, Nat.reduceMod, Nat.div_one]
  tauto

theorem slli_eq_iff {rd shamt : BitVec 5} : slli rd shamt = w ↔
    rd = w.extractLsb' 7 5 ∧ shamt = w.extractLsb' 2 5 ∧ w.toNat / 8192 % 8 = 0b000 ∧
      w.toNat / 4096 % 2 = 0 ∧ w.toNat % 4 = 0b10 := by
  rw [eq_iff_eq_piece]
  simp only [slli, append_eq_piece_iff]
  simp only [ofNat_eq_piece_iff, Nat.reducePow, Nat.reduceAdd, Nat.reduceMod, Nat.div_one]
  tauto

theorem loadStack_eq_iff {k : Access} {rd : BitVec 5} (h : k.loadOffset.Admits n) :
    loadStack k funct3 rd n = w ↔ n = k.loadOffset.read (w.setWidth 32) ∧ rd = w.extractLsb' 7 5 ∧
      w.toNat / 8192 % 8 = funct3.toNat ∧ w.toNat % 4 = 0b10 := by
  cases k with
  | word =>
    rw [Access.loadOffset] at h ⊢
    rw [eq_iff_eq_piece, Immediate.eq_read_iff (by decide) h]
    simp only [loadStack, append_eq_piece_iff, ofNat_eq_piece_iff, ← field_eq_toNat_iff funct3 w,
      BitVec.extractLsb, extractLsb'_setWidth, Immediate.stackLoadWord, Slice.length,
      List.forall_mem_cons, Nat.reducePow, Nat.reduceAdd, Nat.reduceMod, Nat.div_one]
    tauto
  | double =>
    rw [Access.loadOffset] at h ⊢
    rw [eq_iff_eq_piece, Immediate.eq_read_iff (by decide) h]
    simp only [loadStack, append_eq_piece_iff, ofNat_eq_piece_iff, ← field_eq_toNat_iff funct3 w,
      BitVec.extractLsb, extractLsb'_setWidth, Immediate.stackLoadDouble, Slice.length,
      List.forall_mem_cons, Nat.reducePow, Nat.reduceAdd, Nat.reduceMod, Nat.div_one]
    tauto

theorem css_eq_iff {k : Access} {rs2 : BitVec 5} (h : k.storeOffset.Admits n) :
    css k funct3 rs2 n = w ↔ n = k.storeOffset.read (w.setWidth 32) ∧ rs2 = w.extractLsb' 2 5 ∧
      w.toNat / 8192 % 8 = funct3.toNat ∧ w.toNat % 4 = 0b10 := by
  cases k with
  | word =>
    rw [Access.storeOffset] at h ⊢
    rw [eq_iff_eq_piece, Immediate.eq_read_iff (by decide) h]
    simp only [css, append_eq_piece_iff, ofNat_eq_piece_iff, ← field_eq_toNat_iff funct3 w,
      BitVec.extractLsb, extractLsb'_setWidth, Immediate.stackStoreWord, Slice.length,
      List.forall_mem_cons, Nat.reducePow, Nat.reduceAdd, Nat.reduceMod, Nat.div_one]
    tauto
  | double =>
    rw [Access.storeOffset] at h ⊢
    rw [eq_iff_eq_piece, Immediate.eq_read_iff (by decide) h]
    simp only [css, append_eq_piece_iff, ofNat_eq_piece_iff, ← field_eq_toNat_iff funct3 w,
      BitVec.extractLsb, extractLsb'_setWidth, Immediate.stackStoreDouble, Slice.length,
      List.forall_mem_cons, Nat.reducePow, Nat.reduceAdd, Nat.reduceMod, Nat.div_one]
    tauto

theorem cr_eq_iff {first second : BitVec 5} : cr funct4 first second = w ↔
    first = w.extractLsb' 7 5 ∧ second = w.extractLsb' 2 5 ∧
      w.toNat / 4096 % 16 = funct4.toNat ∧ w.toNat % 4 = 0b10 := by
  rw [eq_iff_eq_piece]
  simp only [cr, append_eq_piece_iff]
  simp only [ofNat_eq_piece_iff, ← field_eq_toNat_iff funct4 w, Nat.reducePow, Nat.reduceAdd,
    Nat.reduceMod, Nat.div_one]
  tauto

theorem crSingle_eq_iff {first : BitVec 5} : crSingle funct4 first = w ↔
    first = w.extractLsb' 7 5 ∧ w.toNat / 4096 % 16 = funct4.toNat ∧ w.toNat / 4 % 32 = 0 ∧
      w.toNat % 4 = 0b10 := by
  rw [eq_iff_eq_piece]
  simp only [crSingle, append_eq_piece_iff]
  simp only [ofNat_eq_piece_iff, ← field_eq_toNat_iff funct4 w, Nat.reducePow, Nat.reduceAdd,
    Nat.reduceMod, Nat.div_one]
  tauto

theorem ebreak_eq_iff : ebreak = w ↔ w.toNat / 4096 % 16 = 0b1001 ∧ w.toNat / 128 % 32 = 0 ∧
    w.toNat / 4 % 32 = 0 ∧ w.toNat % 4 = 0b10 := by
  rw [eq_iff_eq_piece]
  simp only [ebreak, append_eq_piece_iff]
  simp only [ofNat_eq_piece_iff, Nat.reducePow, Nat.reduceAdd, Nat.reduceMod, Nat.div_one]
  tauto

/-! ## Numbers of fields -/

theorem first_eq_iff (r : BitVec 5) : w.extractLsb' 7 5 = r ↔ w.toNat / 128 % 32 = r.toNat := by
  simp only [← BitVec.toNat_inj, toNat_extractLsb', Nat.reducePow]

theorem second_eq_iff (r : BitVec 5) : w.extractLsb' 2 5 = r ↔ w.toNat / 4 % 32 = r.toNat := by
  simp only [← BitVec.toNat_inj, toNat_extractLsb', Nat.reducePow]

theorem stackAddress_eq_zero_iff :
    Immediate.stackAddress.read (w.setWidth 32) = 0 ↔ w.toNat / 32 % 256 = 0 := by
  rw [Immediate.read_eq_zero_iff (by decide), toNat_setWidth]
  simp only [Immediate.stackAddress, Slice.length, List.forall_mem_cons, List.not_mem_nil,
    false_imp_iff, implies_true, and_true]
  omega

theorem stackStep_eq_zero_iff : Immediate.stackStep.read (w.setWidth 32) = 0 ↔
    w.toNat / 4096 % 2 = 0 ∧ w.toNat / 4 % 32 = 0 := by
  rw [Immediate.read_eq_zero_iff (by decide), toNat_setWidth]
  simp only [Immediate.stackStep, Slice.length, List.forall_mem_cons, List.not_mem_nil,
    false_imp_iff, implies_true, and_true]
  omega

theorem smallUpper_eq_zero_iff : Immediate.smallUpper.read (w.setWidth 32) = 0 ↔
    w.toNat / 4096 % 2 = 0 ∧ w.toNat / 4 % 32 = 0 := by
  rw [Immediate.read_eq_zero_iff (by decide), toNat_setWidth]
  simp only [Immediate.smallUpper, Slice.length, List.forall_mem_cons, List.not_mem_nil,
    false_imp_iff, implies_true, and_true]
  omega

end Half

/-! ## Fixed bits of half words -/

namespace Pattern

theorem matches_half_iff {fs : List (Nat × Nat × Nat)} (hfs : AreFields fs) (w : BitVec 16) :
    (ofFields fs).Matches (w.setWidth 32) ↔
      ∀ f ∈ fs, w.toNat / 2 ^ f.2.1 % 2 ^ (f.1 + 1 - f.2.1) = f.2.2 := by
  rw [matches_ofFields_iff hfs, Half.toNat_setWidth]

theorem matches_half_funct3_iff (funct3 : BitVec 3) (w : BitVec 16) :
    (ofFields [(15, 13, funct3.toNat)]).Matches (w.setWidth 32) ↔
      w.toNat / 8192 % 8 = funct3.toNat := by
  have hfields : AreFields [(15, 13, funct3.toNat)] := by revert funct3; decide
  simp only [matches_half_iff hfields, List.forall_mem_singleton, Nat.reducePow, Nat.reduceAdd,
    Nat.reduceSub]

end Pattern

/-! ## Ranges of immediates -/

namespace Immediate

variable {n : Int}

theorem stackAddress_admits_iff : stackAddress.Admits n ↔ 4 ∣ n ∧ 0 ≤ n ∧ n ≤ 1020 := by
  simp [Admits, stackAddress]
  omega

theorem small_admits_iff : small.Admits n ↔ -32 ≤ n ∧ n ≤ 31 := by
  simp [Admits, small]
  omega

theorem shortShamt_admits_iff : shortShamt.Admits n ↔ 0 ≤ n ∧ n ≤ 63 := by
  simp [Admits, shortShamt]
  omega

theorem stackStep_admits_iff : stackStep.Admits n ↔ 16 ∣ n ∧ -512 ≤ n ∧ n ≤ 496 := by
  simp [Admits, stackStep]
  omega

theorem smallUpper_admits_iff :
    smallUpper.Admits n ↔ 4096 ∣ n ∧ -131072 ≤ n ∧ n ≤ 126976 := by
  simp [Admits, smallUpper]
  omega

theorem jumpOffset_admits_iff : jumpOffset.Admits n ↔ 2 ∣ n ∧ -2048 ≤ n ∧ n ≤ 2046 := by
  simp [Admits, jumpOffset]
  omega

theorem branchOffset_admits_iff : branchOffset.Admits n ↔ 2 ∣ n ∧ -256 ≤ n ∧ n ≤ 254 := by
  simp [Admits, branchOffset]
  omega

end Immediate

namespace Access

variable {k : Access} {n : Int}

theorem offset_admits_iff : k.offset.Admits n ↔ k.bytes ∣ n ∧ 0 ≤ n ∧ n < 32 * k.bytes := by
  cases k <;>
    simp [offset, bytes, Immediate.Admits, Immediate.wordOffset, Immediate.doubleOffset]

theorem loadOffset_admits_iff : k.loadOffset.Admits n ↔ k.bytes ∣ n ∧ 0 ≤ n ∧ n < 64 * k.bytes := by
  cases k <;>
    simp [loadOffset, bytes, Immediate.Admits, Immediate.stackLoadWord, Immediate.stackLoadDouble]

theorem storeOffset_admits_iff :
    k.storeOffset.Admits n ↔ k.bytes ∣ n ∧ 0 ≤ n ∧ n < 64 * k.bytes := by
  cases k <;>
    simp [storeOffset, bytes, Immediate.Admits, Immediate.stackStoreWord,
      Immediate.stackStoreDouble]

end Access

end Rv32
