import Rv32.Encoding
import Rv32.Fields
import Rv32.Proofs.Immediate

/-!
# Words and their fields

A word that is put together from pieces is compared with another word piece by piece:
`append_eq_piece_iff` splits off the lowest piece.

* `RType.write_eq_iff` and its like for the other base formats : a word is written from fields and
  opcode if these are the ones that it reads back to. Immediates have to be admitted;
* `RegisterField.read_wide`, `RegisterField.read_narrow` : the registers of a word by their numbers.
-/

namespace Rv32

theorem toNat_append_eq_iff {a b : Nat} (x : BitVec a) (y : BitVec b) (v : Nat) :
    (x ++ y).toNat = v ↔ x.toNat = v / 2 ^ b ∧ y.toNat = v % 2 ^ b := by
  rw [BitVec.toNat_append, ← Nat.shiftLeft_add_eq_or_of_lt y.isLt, Nat.shiftLeft_eq]
  have hy := y.isLt
  constructor
  · rintro rfl
    rw [Nat.add_comm, Nat.add_mul_div_right _ _ (Nat.two_pow_pos b), Nat.div_eq_of_lt hy,
      Nat.add_mul_mod_self_right, Nat.mod_eq_of_lt hy, Nat.zero_add]
    exact ⟨rfl, rfl⟩
  · rintro ⟨hx, hy⟩
    rw [hx, hy, Nat.div_add_mod']

/-- Two pieces stand next to each other in a word. The sum of their lengths is not indexed, as in
use it is a numeral. -/
theorem append_eq_piece_iff {a b k : Nat} (x : BitVec a) (y : BitVec b) (w : BitVec k) (lo : Nat) :
    @Eq (BitVec (no_index (a + b))) (x ++ y) (w.extractLsb' lo (no_index (a + b))) ↔
      x = w.extractLsb' (lo + b) a ∧ y = w.extractLsb' lo b := by
  simp only [← BitVec.toNat_inj, toNat_append_eq_iff, toNat_extractLsb']
  rw [Nat.add_comm a b, pow_add, pow_add, Nat.mod_mul_right_div_self, Nat.div_div_eq_div_mul,
    Nat.mod_mul_right_mod]

theorem eq_iff_eq_piece {k : Nat} {v w : BitVec k} : v = w ↔ v = w.extractLsb' 0 k := by
  rw [BitVec.extractLsb'_eq_self]

theorem toNat_extractLsb {n : Nat} (x : BitVec n) (hi lo : Nat) :
    (x.extractLsb hi lo).toNat = x.toNat / 2 ^ lo % 2 ^ (hi - lo + 1) := by
  rw [BitVec.extractLsb_toNat, Nat.shiftRight_eq_div_pow]

/-! ## Base formats -/

variable (opcode : BitVec 7) (w : BitVec 32)

theorem RType.write_eq_iff (f : RType) :
    f.write opcode = w ↔ f = RType.read w ∧ opcode = w.extractLsb' 0 7 := by
  obtain ⟨rd, rs1, rs2, funct3, funct7⟩ := f
  rw [eq_iff_eq_piece, RType.read, RType.mk.injEq]
  simp only [RType.write, append_eq_piece_iff, BitVec.extractLsb]
  tauto

theorem IType.write_eq_iff (f : IType) (h : Immediate.i.Admits f.imm) :
    f.write opcode = w ↔ f = IType.read w ∧ opcode = w.extractLsb' 0 7 := by
  obtain ⟨rd, rs1, funct3, n⟩ := f
  have hn : (BitVec.ofInt 12 n).extractLsb' 0 (31 + 1 - 20) = BitVec.ofInt 12 n :=
    BitVec.extractLsb'_eq_self
  rw [eq_iff_eq_piece, IType.read, IType.mk.injEq, Immediate.eq_read_iff (by decide) h]
  simp only [IType.write, append_eq_piece_iff, BitVec.extractLsb, Immediate.i, Slice.length,
    List.forall_mem_cons]
  rw [hn]
  tauto

theorem SType.write_eq_iff (f : SType) (h : Immediate.s.Admits f.imm) :
    f.write opcode = w ↔ f = SType.read w ∧ opcode = w.extractLsb' 0 7 := by
  obtain ⟨rs1, rs2, funct3, n⟩ := f
  rw [eq_iff_eq_piece, SType.read, SType.mk.injEq, Immediate.eq_read_iff (by decide) h]
  simp only [SType.write, append_eq_piece_iff, BitVec.extractLsb, Immediate.s, Slice.length,
    List.forall_mem_cons]
  tauto

theorem BType.write_eq_iff (f : BType) (h : Immediate.b.Admits f.imm) :
    f.write opcode = w ↔ f = BType.read w ∧ opcode = w.extractLsb' 0 7 := by
  obtain ⟨rs1, rs2, funct3, n⟩ := f
  rw [eq_iff_eq_piece, BType.read, BType.mk.injEq, Immediate.eq_read_iff (by decide) h]
  simp only [BType.write, append_eq_piece_iff, BitVec.extractLsb, Immediate.b, Slice.length,
    List.forall_mem_cons]
  tauto

theorem UType.write_eq_iff (f : UType) (h : Immediate.u.Admits f.imm) :
    f.write opcode = w ↔ f = UType.read w ∧ opcode = w.extractLsb' 0 7 := by
  obtain ⟨rd, n⟩ := f
  rw [eq_iff_eq_piece, UType.read, UType.mk.injEq, Immediate.eq_read_iff (by decide) h]
  simp only [UType.write, append_eq_piece_iff, BitVec.extractLsb, Immediate.u, Slice.length,
    List.forall_mem_cons]
  tauto

theorem JType.write_eq_iff (f : JType) (h : Immediate.j.Admits f.imm) :
    f.write opcode = w ↔ f = JType.read w ∧ opcode = w.extractLsb' 0 7 := by
  obtain ⟨rd, n⟩ := f
  rw [eq_iff_eq_piece, JType.read, JType.mk.injEq, Immediate.eq_read_iff (by decide) h]
  simp only [JType.write, append_eq_piece_iff, BitVec.extractLsb, Immediate.j, Slice.length,
    List.forall_mem_cons]
  tauto

/-! ## Operand fields -/

/-- The registers of each file by the number in five bits. -/
def Register.x (r : BitVec 5) : Register := ⟨.x, r.toNat⟩
def Register.v (r : BitVec 5) : Register := ⟨.v, r.toNat⟩

/-- An operand in one run of bits is the number that stands there. -/
theorem Layout.toNat_gather_run {hi lo : Nat} (h : hi + 1 - lo ≤ 32) :
    (Layout.gather [⟨hi, lo, 0⟩] w).toNat = w.toNat / 2 ^ lo % 2 ^ (hi + 1 - lo) := by
  have hslice := Slice.toNat_gather (s := ⟨hi, lo, 0⟩) ((Nat.zero_add _).trans_le h) w
  simpa [Layout.gather, Slice.length] using hslice

theorem RegisterField.read_wide (file : RegisterFile) (lo : Nat) :
    (wide file lo).read w = ⟨file, (w.extractLsb' lo 5).toNat⟩ := by
  have h := @Layout.toNat_gather_run w (lo + 4) lo (by omega)
  rw [show lo + 4 + 1 - lo = 5 by omega] at h
  rw [read, wide, h, toNat_extractLsb', Nat.zero_add]

theorem RegisterField.read_narrow (file : RegisterFile) (lo : Nat) :
    (narrow file lo).read w = ⟨file, 8 + (w.extractLsb' lo 3).toNat⟩ := by
  have h := @Layout.toNat_gather_run w (lo + 2) lo (by omega)
  rw [show lo + 2 + 1 - lo = 3 by omega] at h
  rw [read, narrow, h, toNat_extractLsb']

theorem RegisterField.read_implied (r : Register) : (implied r).read w = r := by
  simp [read, implied, Layout.gather]

namespace RegisterField

@[simp] theorem read_rd : rd.read w = .x (w.extractLsb' 7 5) := read_wide w .x 7
@[simp] theorem read_rs1 : rs1.read w = .x (w.extractLsb' 15 5) := read_wide w .x 15
@[simp] theorem read_rs2 : rs2.read w = .x (w.extractLsb' 20 5) := read_wide w .x 20
@[simp] theorem read_vd : vd.read w = .v (w.extractLsb' 7 5) := read_wide w .v 7
@[simp] theorem read_vs1 : vs1.read w = .v (w.extractLsb' 15 5) := read_wide w .v 15
@[simp] theorem read_vs2 : vs2.read w = .v (w.extractLsb' 20 5) := read_wide w .v 20

end RegisterField

theorem Immediate.read_unsigned {hi lo n : Nat} (h : hi + 1 = lo + n) (hn : n ≤ 32) :
    (unsigned hi lo).read w = (w.extractLsb' lo n).toNat := by
  obtain rfl : n = hi + 1 - lo := by omega
  rw [read, unsigned, Layout.toNat_gather_run w hn, toNat_extractLsb']
  rfl

end Rv32
