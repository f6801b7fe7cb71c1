import Rv32.Proofs.WellFormed
import Rv32.Proofs.WordText

/-!
# Assembled words are read back

The parts of an encoding (opcode, fixed bits, mask, registers and immediates) are patterns, and the
word of some operands is all of them put together. Parts that share a bit agree on it, and so the
word has the bits of each part.

* `Pattern.Agrees` : two patterns ask for the same of the bits that they share;
  `Pattern.matches_foldr_or` : patterns that agree are matched by their union;
* `Encoding.parts` : the parts of a word; `Encoding.IsSeparated` : the places of the parts, of which
  only those of one register field may coincide;
* `Encoding.read_write` : admitted operands are read from the word that they are written to;
* `Isa.decode_assemble_iff` : the admitted operands are those that decoding gives back;
* `Isa.decode_reassemble` : so are those of every instruction that was decoded.
-/

namespace Rv32

/-! ## Patterns put together -/

namespace Pattern

variable {p q : Pattern} {ps : List Pattern}

/-- The value has no bits but those that the pattern asks for. -/
def IsWithin (p : Pattern) : Prop := p.value &&& p.care = p.value

/-- The patterns ask for the same value of each bit that both ask for. -/
def Agrees (p q : Pattern) : Prop := p.value &&& q.care = q.value &&& p.care

instance (p : Pattern) : Decidable p.IsWithin := inferInstanceAs (Decidable (_ = _))
instance (p q : Pattern) : Decidable (p.Agrees q) := inferInstanceAs (Decidable (_ = _))

instance : Std.Symm Agrees := ⟨fun _ _ h => Eq.symm h⟩

theorem Agrees.refl (p : Pattern) : p.Agrees p := Eq.refl _

theorem agrees_of_disjoint (hp : p.IsWithin) (hq : q.IsWithin) (h : p.care &&& q.care = 0#32) :
    p.Agrees q := by
  have hzero : p.value &&& q.care = 0#32 := by rw [← hp, BitVec.and_assoc, h, BitVec.and_zero]
  rw [Agrees, hzero, ← hq, BitVec.and_assoc, BitVec.and_comm q.care, h, BitVec.and_zero]

/-- The union of patterns that agree has the bits of each of them. -/
theorem matches_foldr_or (hp : p ∈ ps) (hin : p.IsWithin) (h : ∀ q ∈ ps, q.Agrees p) :
    p.Matches (ps.foldr (fun q w => q.value ||| w) 0#32) := by
  apply BitVec.eq_of_getLsbD_eq
  intro i _
  rw [BitVec.getLsbD_and, getLsbD_foldr_or, Bool.eq_iff_iff, Bool.and_eq_true, List.any_eq_true]
  constructor
  · rintro ⟨⟨q, hq, hbit⟩, hcare⟩
    have hagree := congrArg (fun v : BitVec 32 => v.getLsbD i) (h q hq)
    simp only [BitVec.getLsbD_and, hbit, hcare, Bool.and_self] at hagree
    exact (Bool.and_eq_true_iff.1 hagree.symm).1
  · intro hbit
    have hcare := congrArg (fun v : BitVec 32 => v.getLsbD i) hin
    simp only [BitVec.getLsbD_and, hbit, Bool.true_and] at hcare
    exact ⟨⟨p, hp, hbit⟩, hcare⟩

end Pattern

/-! ## Layouts within their mask -/

namespace Layout

variable {l : Layout} {v w : BitVec 32}

theorem scatter_and_mask (l : Layout) (v : BitVec 32) : l.scatter v &&& l.mask = l.scatter v := by
  apply BitVec.eq_of_getLsbD_eq
  intro i _
  rw [BitVec.getLsbD_and, getLsbD_scatter, getLsbD_mask, Bool.and_eq_left_iff_imp,
    List.any_eq_true, List.any_eq_true]
  rintro ⟨s, hs, hbit⟩
  rw [Slice.getLsbD_scatter, Bool.and_eq_true] at hbit
  exact ⟨s, hs, by rw [Slice.getLsbD_mask]; exact hbit.1⟩

/-- Words that are the same within the mask are the same in every slice. -/
theorem extractLsb'_congr (h : v &&& l.mask = w &&& l.mask) {s : Slice} (hs : s ∈ l) :
    v.extractLsb' s.lo s.length = w.extractLsb' s.lo s.length := by
  apply BitVec.eq_of_getLsbD_eq
  intro j hj
  rw [BitVec.getLsbD_extractLsb', BitVec.getLsbD_extractLsb']
  by_cases h32 : s.lo + j < 32
  · have hmask : l.mask.getLsbD (s.lo + j) = true := by
      rw [getLsbD_mask, List.any_eq_true]
      exact ⟨s, hs, by rw [Slice.getLsbD_mask, decide_eq_true_eq]; omega⟩
    have hbit := congrArg (fun u : BitVec 32 => u.getLsbD (s.lo + j)) h
    simp only [BitVec.getLsbD_and, hmask, Bool.and_true] at hbit
    rw [hbit]
  · rw [BitVec.getLsbD_of_ge _ _ (by omega), BitVec.getLsbD_of_ge _ _ (by omega)]

theorem gather_congr (h : v &&& l.mask = w &&& l.mask) : l.gather v = l.gather w := by
  have hslice : ∀ s ∈ l, s.gather v = s.gather w := by
    intro s hs
    rw [Slice.gather, extractLsb'_congr h hs, Slice.gather]
  apply BitVec.eq_of_getLsbD_eq
  intro i _
  rw [getLsbD_gather, getLsbD_gather, Bool.eq_iff_iff, List.any_eq_true, List.any_eq_true]
  exact exists_congr fun s => and_congr_right fun hs => by rw [hslice s hs]

/-- The slices hold each bit of the operand up to its length once, each in a bit of its own. -/
def IsWhole (l : Layout) : Prop :=
  l.IsProper ∧ l.IsSeparate ∧ (∀ s ∈ l, s.place + s.length ≤ l.length) ∧
  ∀ i < l.length, ∃ s ∈ l, s.place ≤ i ∧ i < s.place + s.length

instance (l : Layout) : Decidable l.IsWhole := inferInstanceAs (Decidable (_ ∧ _))

theorem gather_scatter (hl : l.IsWhole) (hv : v.toNat < 2 ^ l.length) :
    l.gather (l.scatter v) = v := by
  obtain ⟨hproper, hsep, hinside, hcover⟩ := hl
  apply BitVec.eq_of_getLsbD_eq
  intro i _
  by_cases hi : i < l.length
  · obtain ⟨s, hs, hle, hlt⟩ := hcover i hi
    have hj : i - s.place < s.length := by omega
    have hbit := getLsbD_gather_of_mem hproper hs hj (l.scatter v)
    rwa [getLsbD_scatter_of_mem hsep hs hj, Nat.add_sub_cancel' hle] at hbit
  · have hzero : v.getLsbD i = false :=
      Nat.testBit_lt_two_pow (hv.trans_le (Nat.pow_le_pow_right (by decide) (by omega)))
    rw [hzero]
    refine getLsbD_gather_eq_false (fun s hs => .inr ?_) _
    have := hinside s hs
    omega

end Layout

/-! ## Parts -/

def Opcode.part (k : Opcode) : Pattern := ⟨k.mask, BitVec.ofNat 32 k.code⟩

def RegisterField.part (f : RegisterField) (r : Register) : Pattern := ⟨f.layout.mask, f.write r⟩

def Immediate.part (m : Immediate) (n : Int) : Pattern := ⟨m.layout.mask, m.write n⟩

def Masking.part (k : Masking) (mask : Option Mask) : Pattern := ⟨k.mask, k.write mask⟩

theorem RegisterField.isWithin_part (f : RegisterField) (r : Register) : (f.part r).IsWithin :=
  f.layout.scatter_and_mask _

theorem Immediate.isWithin_part (m : Immediate) (n : Int) : (m.part n).IsWithin :=
  m.layout.scatter_and_mask _

theorem Masking.isWithin_part (k : Masking) (mask : Option Mask) : (k.part mask).IsWithin := by
  cases k with
  | absent => exact BitVec.zero_and
  | always _ => exact BitVec.zero_and
  | chosen => rcases mask with _ | _ | _ <;> decide

theorem RegisterField.read_of_matches {f : RegisterField} {r : Register} {w : BitVec 32}
    (hf : f.layout.IsWhole) (hlength : f.layout.length ≤ 32) (hr : f.Admits r)
    (h : (f.part r).Matches w) : f.read w = r := by
  obtain ⟨hfile, hbase, hlt⟩ := hr
  rw [Nat.one_shiftLeft] at hlt
  have hle : 2 ^ f.layout.length ≤ 2 ^ 32 := Nat.pow_le_pow_right (by decide) hlength
  have hnumber : (BitVec.ofNat 32 (r.index - f.base)).toNat = r.index - f.base := by
    rw [BitVec.toNat_ofNat, Nat.mod_eq_of_lt (by omega)]
  have hgather : f.layout.gather w = BitVec.ofNat 32 (r.index - f.base) := by
    have hmask : w &&& f.layout.mask = f.write r &&& f.layout.mask :=
      h.trans (f.isWithin_part r).symm
    rw [Layout.gather_congr hmask, write, Layout.gather_scatter hf]
    omega
  obtain ⟨file, index⟩ := r
  rw [read, hgather, hnumber, ← hfile, Nat.add_sub_cancel' hbase]

theorem Immediate.read_of_matches {m : Immediate} {n : Int} {w : BitVec 32} (hm : m.IsExact)
    (hsep : m.layout.IsSeparate) (hn : m.Admits n) (h : (m.part n).Matches w) : m.read w = n := by
  have hmask : w &&& m.layout.mask = m.write n &&& m.layout.mask :=
    h.trans (m.isWithin_part n).symm
  calc m.read w = m.read (m.write n) :=
        (read_eq_read_iff hm _ _).2 fun s hs => Layout.extractLsb'_congr hmask hs
    _ = n := read_write hm hsep hn

theorem Masking.read_of_matches {k : Masking} {mask : Option Mask} {w : BitVec 32}
    (hmask : k.Admits mask) (h : (k.part mask).Matches w) : k.read w = mask := by
  cases k with
  | absent => exact Eq.symm hmask
  | always mask' => exact Eq.symm hmask
  | chosen =>
    have hplace : (BitVec.twoPow 32 25).getLsbD 25 = true := by decide
    have hbit := congrArg (fun v : BitVec 32 => v.getLsbD 25) h
    simp only [part, Masking.mask, BitVec.getLsbD_and, hplace, Bool.and_true] at hbit
    rcases mask with _ | _ | _
    · cases hmask
    · rw [read, hbit]
      rfl
    · rw [read, hbit]
      rfl

/-! ## Operands written and read back -/

namespace Encoding

variable {e : Encoding} {o : Operands} {p : Pattern} {w : BitVec 32}

def parts (e : Encoding) (o : Operands) : List Pattern :=
  e.opcode.part :: e.fixed :: e.masking.part o.mask ::
    ((e.dest.zip o.dest ++ e.src.zip o.src).map (fun q => q.1.part q.2) ++
      (e.imm.zip o.imm).map fun q => q.1.part q.2)

theorem write_eq_foldr (e : Encoding) (o : Operands) :
    e.write o = (e.parts o).foldr (fun p w => p.value ||| w) 0#32 := by
  have hvalues : (e.parts o).map Pattern.value = BitVec.ofNat 32 e.opcode.code :: e.fixed.value ::
      e.masking.write o.mask :: (List.zipWith RegisterField.write e.dest o.dest ++
        List.zipWith RegisterField.write e.src o.src ++
          List.zipWith Immediate.write e.imm o.imm) := by
    simp only [parts, List.map_cons, List.map_append, List.map_map,
      ← List.map_uncurry_zip_eq_zipWith]
    rfl
  rw [write, ← hvalues, List.foldr_map]

/-- No register and no immediate takes one of these bits. -/
def Spares (e : Encoding) (bits : BitVec 32) : Prop :=
  (∀ f ∈ e.dest ++ e.src, bits &&& f.layout.mask = 0#32) ∧
  ∀ m ∈ e.imm, bits &&& m.layout.mask = 0#32

instance (e : Encoding) (bits : BitVec 32) : Decidable (e.Spares bits) :=
  inferInstanceAs (Decidable (_ ∧ _))

/-- The opcode and the fixed bits agree, and no other two parts share a bit unless they are of one
register field. -/
def IsSeparated (e : Encoding) : Prop :=
  e.opcode.part.IsWithin ∧ e.fixed.IsWithin ∧ e.opcode.part.Agrees e.fixed ∧
  e.opcode.mask &&& e.masking.mask = 0#32 ∧ e.fixed.care &&& e.masking.mask = 0#32 ∧
  e.Spares e.opcode.mask ∧ e.Spares e.fixed.care ∧ e.Spares e.masking.mask ∧
  (∀ f ∈ e.dest ++ e.src, ∀ g ∈ e.dest ++ e.src, f = g ∨ f.layout.mask &&& g.layout.mask = 0#32) ∧
  (∀ f ∈ e.dest ++ e.src, ∀ m ∈ e.imm, f.layout.mask &&& m.layout.mask = 0#32) ∧
  e.imm.Pairwise fun m n => m.layout.mask &&& n.layout.mask = 0#32

/-- Each operand can be read from its place. -/
def IsReadable (e : Encoding) : Prop :=
  (∀ f ∈ e.dest ++ e.src, f.layout.IsWhole ∧ f.layout.length ≤ 32) ∧
  ∀ m ∈ e.imm, m.IsExact ∧ m.layout.IsSeparate

instance (e : Encoding) : Decidable e.IsSeparated := inferInstanceAs (Decidable (_ ∧ _))
instance (e : Encoding) : Decidable e.IsReadable := inferInstanceAs (Decidable (_ ∧ _))

theorem zip_registers (ho : e.Admits o) :
    (e.dest ++ e.src).zip (o.dest ++ o.src) = e.dest.zip o.dest ++ e.src.zip o.src :=
  List.zip_append ho.1.symm

theorem mem_fields {q : RegisterField × Register} (ho : e.Admits o)
    (hq : q ∈ e.dest.zip o.dest ++ e.src.zip o.src) : q.1 ∈ e.dest ++ e.src := by
  rw [← zip_registers ho] at hq
  exact (List.of_mem_zip hq).1

theorem isWithin_of_mem_parts (he : e.IsSeparated) (hp : p ∈ e.parts o) : p.IsWithin := by
  simp only [parts, List.mem_cons, List.mem_append, List.mem_map] at hp
  rcases hp with rfl | rfl | rfl | ⟨q, -, rfl⟩ | ⟨q, -, rfl⟩
  · exact he.1
  · exact he.2.1
  · exact Masking.isWithin_part _ _
  · exact RegisterField.isWithin_part _ _
  · exact Immediate.isWithin_part _ _

/-- Registers in one field are one register, and other parts with a bit in common are constant. -/
theorem pairwise_agrees (he : e.IsSeparated) (ho : e.Admits o) :
    (e.parts o).Pairwise Pattern.Agrees := by
  obtain ⟨hopcode, hfixed, hconst, hopcode', hfixed', hspares₁, hspares₂, hspares₃, hregs, hmixed,
    himm⟩ := he
  obtain ⟨-, -, hlength, -, hsame, -, -, -⟩ := id ho
  rw [zip_registers ho] at hsame
  have hmask := e.masking.isWithin_part o.mask
  -- a part that is not an operand shares no bit with one
  have houter : ∀ p : Pattern, p.IsWithin → e.Spares p.care →
      ∀ q ∈ (e.dest.zip o.dest ++ e.src.zip o.src).map (fun q => q.1.part q.2) ++
        (e.imm.zip o.imm).map (fun q => q.1.part q.2), p.Agrees q := by
    intro p hp hspares q hq
    rcases List.mem_append.1 hq with hq | hq
    · obtain ⟨⟨f, r⟩, hfr, rfl⟩ := List.mem_map.1 hq
      exact Pattern.agrees_of_disjoint hp (f.isWithin_part r)
        (hspares.1 f (mem_fields ho hfr))
    · obtain ⟨⟨m, n⟩, hmn, rfl⟩ := List.mem_map.1 hq
      exact Pattern.agrees_of_disjoint hp (m.isWithin_part n)
        (hspares.2 m (List.of_mem_zip hmn).1)
  refine List.pairwise_cons.2 ⟨?_, List.pairwise_cons.2 ⟨?_, List.pairwise_cons.2 ⟨?_, ?_⟩⟩⟩
  · refine List.forall_mem_cons.2 ⟨hconst, List.forall_mem_cons.2 ⟨?_, ?_⟩⟩
    · exact Pattern.agrees_of_disjoint hopcode hmask hopcode'
    · exact houter _ hopcode hspares₁
  · refine List.forall_mem_cons.2 ⟨?_, houter _ hfixed hspares₂⟩
    exact Pattern.agrees_of_disjoint hfixed hmask hfixed'
  · exact houter _ hmask hspares₃
  · refine List.pairwise_append.2 ⟨?_, ?_, ?_⟩
    · rw [List.pairwise_map]
      refine List.pairwise_of_forall_mem_list fun q hq q' hq' => ?_
      rcases hregs q.1 (mem_fields ho hq) q'.1 (mem_fields ho hq') with h | h
      · rw [h, hsame q hq q' hq' h]
        exact Pattern.Agrees.refl _
      · exact Pattern.agrees_of_disjoint (RegisterField.isWithin_part _ _)
          (RegisterField.isWithin_part _ _) h
    · rw [List.pairwise_map]
      rw [← List.map_fst_zip hlength.ge, List.pairwise_map] at himm
      exact himm.imp fun h => Pattern.agrees_of_disjoint (Immediate.isWithin_part _ _)
        (Immediate.isWithin_part _ _) h
    · intro p hp q hq
      obtain ⟨⟨f, r⟩, hfr, rfl⟩ := List.mem_map.1 hp
      obtain ⟨⟨m, n⟩, hmn, rfl⟩ := List.mem_map.1 hq
      exact Pattern.agrees_of_disjoint (f.isWithin_part r) (m.isWithin_part n)
        (hmixed f (mem_fields ho hfr) m (List.of_mem_zip hmn).1)

theorem matches_write (he : e.IsSeparated) (ho : e.Admits o) (hp : p ∈ e.parts o) :
    p.Matches (e.write o) := by
  have hagree := (pairwise_agrees he ho).forall_of_forall fun q _ => Pattern.Agrees.refl q
  rw [write_eq_foldr]
  exact Pattern.matches_foldr_or hp (isWithin_of_mem_parts he hp) fun q hq => hagree hq hp

theorem map_eq_of_forall_zip {α β : Type} {read : α → β} {l : List α} {l' : List β}
    (hlength : l'.length = l.length) (h : ∀ q ∈ l.zip l', read q.1 = q.2) : l.map read = l' := by
  have hall : List.Forall₂ (fun a b => read a = b) l l' :=
    List.forall₂_iff_zip.2 ⟨hlength.symm, fun hq => h _ hq⟩
  rwa [← List.forall₂_eq_eq_eq, List.forall₂_map_left_iff]

theorem read_write (he : e.IsSeparated) (hread : e.IsReadable) (ho : e.Admits o) :
    e.read (e.write o) = o := by
  have hmatches := fun p (hp : p ∈ e.parts o) => matches_write he ho hp
  obtain ⟨hdest, hsrc, himm, hregs, -, hvalues, hmask, -⟩ := id ho
  rw [zip_registers ho] at hregs
  have hregister : ∀ q ∈ e.dest.zip o.dest ++ e.src.zip o.src, q.1.read (e.write o) = q.2 := by
    intro q hq
    obtain ⟨hwhole, hlength⟩ := hread.1 q.1 (mem_fields ho hq)
    refine RegisterField.read_of_matches hwhole hlength (hregs q hq) (hmatches _ ?_)
    simp only [parts, List.mem_cons, List.mem_append, List.mem_map]
    exact .inr (.inr (.inr (.inl ⟨q, List.mem_append.1 hq, rfl⟩)))
  have himmediate : ∀ q ∈ e.imm.zip o.imm, q.1.read (e.write o) = q.2 := by
    intro q hq
    obtain ⟨hexact, hsep⟩ := hread.2 q.1 (List.of_mem_zip hq).1
    refine Immediate.read_of_matches hexact hsep (hvalues q hq) (hmatches _ ?_)
    simp only [parts, List.mem_cons, List.mem_append, List.mem_map]
    exact .inr (.inr (.inr (.inr ⟨q, hq, rfl⟩)))
  have hmasking := Masking.read_of_matches hmask (hmatches _ (by simp [parts]))
  rw [read, hmasking, map_eq_of_forall_zip hdest fun q hq => hregister q (by simp [hq]),
    map_eq_of_forall_zip hsrc fun q hq => hregister q (by simp [hq]),
    map_eq_of_forall_zip himm himmediate]

theorem accepts_write (he : e.IsSeparated) (ho : e.Admits o) : e.Accepts (e.write o) :=
  ⟨matches_write he ho (by simp [parts]), ho.2.2.2.2.2.2.2⟩

/-- An assembled word has no bits but those that are determined. -/
theorem getLsbD_determined (he : e.IsSeparated) {i : Nat} (h : (e.write o).getLsbD i) :
    e.determined.getLsbD i := by
  rw [write_eq_foldr, getLsbD_foldr_or, List.any_eq_true] at h
  obtain ⟨p, hp, hbit⟩ := h
  have hcare := congrArg (fun v : BitVec 32 => v.getLsbD i) (isWithin_of_mem_parts he hp)
  simp only [BitVec.getLsbD_and, hbit, Bool.true_and] at hcare
  have hmem : p.care ∈ e.masks := by
    simp only [parts, List.mem_cons, List.mem_append, List.mem_map] at hp
    simp only [masks, List.mem_cons, List.mem_append, List.mem_map]
    rcases hp with rfl | rfl | rfl | ⟨q, hq | hq, rfl⟩ | ⟨q, hq, rfl⟩
    · exact .inl rfl
    · exact .inr (.inl rfl)
    · exact .inr (.inr (.inl rfl))
    · exact .inr (.inr (.inr (.inl (.inl ⟨q.1, (List.of_mem_zip hq).1, rfl⟩))))
    · exact .inr (.inr (.inr (.inl (.inr ⟨q.1, (List.of_mem_zip hq).1, rfl⟩))))
    · exact .inr (.inr (.inr (.inr ⟨q.1, (List.of_mem_zip hq).1, rfl⟩)))
  rw [determined, getLsbD_foldr_or fun v : BitVec 32 => v, List.any_eq_true]
  exact ⟨p.care, hmem, hcare⟩

end Encoding

/-! ## Operands that are read are admitted -/

theorem RegisterField.admits_read {f : RegisterField} (hf : f.IsBounded) (w : BitVec 32) :
    f.Admits (f.read w) := by
  have hlt := Layout.toNat_gather_lt hf.1 w
  refine ⟨rfl, Nat.le_add_right _ _, ?_⟩
  rw [Nat.one_shiftLeft]
  exact Nat.add_lt_add_left hlt f.base

theorem Masking.admits_read (k : Masking) (w : BitVec 32) : k.Admits (k.read w) := by
  cases k <;> rfl

theorem mem_zip_map {α β : Type} {read : α → β} {l : List α} {q : α × β}
    (h : q ∈ l.zip (l.map read)) : q.1 ∈ l ∧ q.2 = read q.1 := by
  rw [List.zip_eq_zipWith, List.zipWith_map_right, List.zipWith_self, List.mem_map] at h
  obtain ⟨a, ha, rfl⟩ := h
  exact ⟨ha, rfl⟩

theorem Encoding.admits_read {e : Encoding} {w : BitVec 32}
    (hregs : ∀ f ∈ e.dest ++ e.src, f.IsBounded) (himm : ∀ m ∈ e.imm, m.IsExact)
    (hreserved : ∀ p ∈ e.reserved, ¬ p.Matches (e.write (e.read w))) : e.Admits (e.read w) := by
  have hmap : (e.read w).dest ++ (e.read w).src = (e.dest ++ e.src).map (·.read w) :=
    List.map_append.symm
  refine ⟨List.length_map _, List.length_map _, List.length_map _, ?_, ?_, ?_,
    e.masking.admits_read w, hreserved⟩
  · intro q hq
    rw [hmap] at hq
    obtain ⟨hf, hr⟩ := mem_zip_map hq
    rw [hr]
    exact RegisterField.admits_read (hregs _ hf) w
  · intro q hq q' hq' h
    rw [hmap] at hq hq'
    rw [(mem_zip_map hq).2, (mem_zip_map hq').2, h]
  · intro q hq
    obtain ⟨hm, hn⟩ := mem_zip_map hq
    rw [hn]
    exact Immediate.admits_read (himm _ hm) w

/-! ## Operations -/

theorem Word.opcode_eq_of_matches {w : Word} {k : Opcode} (hk : k ∈ Opcode.all)
    (hwidth : w.width = .half ↔ k.isCompressed) (h : k.part.Matches w.value) : w.opcode = k := by
  have hlt : ∀ k ∈ Opcode.all, k.code < 128 := by decide
  have hcode : w.opcode.mask = k.mask → w.opcode.code = k.code := by
    intro hmask
    have hword : BitVec.ofNat 32 w.opcode.code = BitVec.ofNat 32 k.code := by
      rw [w.ofNat_code, hmask]
      exact h
    have hnat := congrArg BitVec.toNat hword
    have hsmall : w.opcode.code < 128 := by
      cases w with
      | half b => exact (b.extractLsb' 0 2).isLt.trans (by decide)
      | full b => exact (b.extractLsb' 0 7).isLt
    have := hlt k hk
    rwa [BitVec.toNat_ofNat, BitVec.toNat_ofNat, Nat.mod_eq_of_lt (by omega),
      Nat.mod_eq_of_lt (by omega)] at hnat
  cases w with
  | half b =>
    cases k with
    | major code => exact absurd (hwidth.1 rfl) (by simp [Opcode.isCompressed])
    | quadrant index => exact congrArg Opcode.quadrant (hcode rfl)
  | full b =>
    cases k with
    | major code => exact congrArg Opcode.major (hcode rfl)
    | quadrant index => exact absurd (hwidth.2 rfl) (by simp [width])

namespace Mnemonic

variable {m : Mnemonic} {o : Operands} {w : Word}

theorem isSeparated_encoding : ∀ m : Mnemonic, m.encoding.IsSeparated := by decide +kernel

theorem isReadable_encoding : ∀ m : Mnemonic, m.encoding.IsReadable := by decide +kernel

/-- The parts of half a word are in its sixteen bits. -/
theorem toNat_determined_lt : ∀ m : Mnemonic, m.encoding.determined.toNat < 2 ^ m.width.bits := by
  decide +kernel

theorem value_assemble (m : Mnemonic) (o : Operands) :
    (m.assemble o).value = m.encoding.write o := by
  apply BitVec.eq_of_toNat_eq
  refine Word.toNat_value_ofNat ?_
  apply Nat.lt_pow_two_of_testBit
  intro i hi
  by_contra hbit
  have hdetermined : m.encoding.determined.toNat.testBit i = true :=
    Encoding.getLsbD_determined m.isSeparated_encoding (Bool.of_not_eq_false hbit)
  have hlt := m.toNat_determined_lt.trans_le (Nat.pow_le_pow_right (by decide) hi)
  rw [Nat.testBit_lt_two_pow hlt] at hdetermined
  cases hdetermined

theorem fits_assemble (ho : m.Admits o) : m.Fits (m.assemble o) := by
  have he := m.isSeparated_encoding
  refine ⟨Eq.symm ?_, ?_⟩
  · refine Word.opcode_eq_of_matches (m.extension.opcodes_subset m.opcode_mem) ?_ ?_
    · rw [assemble, Word.width_ofNat, width]
      cases m.encoding.opcode.isCompressed <;> simp
    · rw [value_assemble]
      exact Encoding.matches_write he ho (by simp [Encoding.parts])
  · rw [value_assemble]
    exact Encoding.accepts_write he ho

theorem read_assemble (ho : m.Admits o) : m.encoding.read (m.assemble o).value = o := by
  rw [value_assemble, Encoding.read_write m.isSeparated_encoding m.isReadable_encoding ho]

theorem reserved_of_ignoringBits : ∀ m ∈ ignoringBits, m.encoding.reserved = [] := by
  decide +kernel

theorem admits_read (h : m.Fits w) : m.Admits (m.encoding.read w.value) := by
  refine Encoding.admits_read m.isBounded_fields (fun n hn => (m.isReadable_encoding.2 n hn).1) ?_
  by_cases hm : m ∈ ignoringBits
  · rw [reserved_of_ignoringBits m hm]
    exact List.forall_mem_nil _
  · -- the word that is written is the one that was read, and it is not reserved
    rw [← value_assemble, assemble_read hm h]
    exact h.2.2

end Mnemonic

/-! ## Results -/

namespace Isa

variable {s : Isa} {m : Mnemonic} {o : Operands} {w : Word} {i : Instruction}

/-- The operands that an operation has a word for are those that decoding gives back. -/
theorem decode_assemble_iff (hs : s.supports m.extension) :
    (∃ i, s.decode (m.assemble o) = .ok i ∧ i.mnemonic = m ∧ i.operands = o) ↔ m.Admits o := by
  constructor
  · rintro ⟨i, hi, hm, ho⟩
    obtain ⟨n, -, hn, rfl⟩ := decode_eq_ok_iff.1 hi
    obtain rfl : n = m := hm
    rw [← ho]
    exact Mnemonic.admits_read hn
  · intro ho
    refine ⟨m.instruction (m.assemble o), ?_, rfl, Mnemonic.read_assemble ho⟩
    exact decode_eq_ok_iff.2 ⟨m, hs, Mnemonic.fits_assemble ho, rfl⟩

example : (Mnemonic.integer .addi).Admits { dest := [⟨.x, 5⟩], src := [⟨.x, 10⟩], imm := [-1] } ∧
    ¬ (Mnemonic.integer .addi).Admits { dest := [⟨.x, 5⟩], src := [⟨.x, 10⟩], imm := [2048] } := by
  decide

/-- A decoded instruction assembles to a word of the same operation and operands, and to its own
word if the operation ignores no bits. -/
theorem decode_reassemble (h : s.decode w = .ok i) :
    (∃ j, s.decode i.assemble = .ok j ∧ j.mnemonic = i.mnemonic ∧ j.operands = i.operands) ∧
    (i.mnemonic ∉ Mnemonic.ignoringBits → i.assemble = w) := by
  obtain ⟨m, hs, hm, rfl⟩ := decode_eq_ok_iff.1 h
  exact ⟨(decode_assemble_iff hs).2 (Mnemonic.admits_read hm),
    fun hbits => Mnemonic.assemble_read hbits hm⟩

end Isa

end Rv32
