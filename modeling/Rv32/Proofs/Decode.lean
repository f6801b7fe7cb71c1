import Mathlib
import Rv32.Assembly

/-!
# What decoding finds

* `Mnemonic.Fits` : the word has the opcode of the operation and its encoding accepts it;
* `Mnemonic.eq_of_fits` : a word is of at most one operation, over all extensions;
* `Isa.decode_eq_ok_iff` : decoding finds the operation of the word, if an enabled extension has it;
* `Isa.decode_eq_unknown` : it finds none under an opcode that is in use;
* `Isa.decode_cases` : how decoding can fail.

That encodings do not overlap is a fact on the table of operations: `Encoding.Excludes` compares two
encodings by their fixed bits and reserved patterns only, and is checked for every pair.
-/

namespace Rv32

theorem Word.opcode_full_eq_iff (opcode : BitVec 7) (w : BitVec 32) :
    Opcode.major opcode.toNat = (full w).opcode ↔ opcode = w.extractLsb' 0 7 := by
  rw [Word.opcode, Opcode.major.injEq, BitVec.toNat_inj]

theorem Word.opcode_half_eq_iff (k : Nat) (w : BitVec 16) :
    Opcode.quadrant k = (half w).opcode ↔ w.toNat % 4 = k := by
  rw [Word.opcode, Opcode.quadrant.injEq, BitVec.extractLsb'_toNat, eq_comm]
  rfl

/-! ## Encodings that do not overlap -/

namespace Pattern

variable {p q : Pattern} {w : BitVec 32}

/-- The patterns ask for different values of some bit. -/
def Contradicts (p q : Pattern) : Prop := p.care &&& q.care &&& (p.value ^^^ q.value) ≠ 0#32

/-- The bits of `p` include those of `q`. -/
def Implies (p q : Pattern) : Prop := p.care &&& q.care = q.care ∧ p.value &&& q.care = q.value

instance (p q : Pattern) : Decidable (p.Contradicts q) := inferInstanceAs (Decidable (_ ≠ _))
instance (p q : Pattern) : Decidable (p.Implies q) := inferInstanceAs (Decidable (_ ∧ _))

theorem Contradicts.not_matches (h : p.Contradicts q) (hp : p.Matches w) : ¬ q.Matches w := by
  intro hq
  apply h
  unfold Matches at hp hq
  rw [← hp, ← hq]
  apply BitVec.eq_of_getLsbD_eq
  intro i _
  simp only [BitVec.getLsbD_and, BitVec.getLsbD_xor, BitVec.getLsbD_zero]
  cases p.care.getLsbD i <;> cases q.care.getLsbD i <;> simp

theorem Implies.matches (h : p.Implies q) (hp : p.Matches w) : q.Matches w := by
  unfold Matches at hp ⊢
  rw [← h.2, ← hp, BitVec.and_assoc, h.1]

theorem Contradicts.symm (h : p.Contradicts q) : q.Contradicts p := by
  unfold Contradicts at h ⊢
  rwa [BitVec.and_comm q.care, BitVec.xor_comm q.value]

end Pattern

namespace Encoding

variable {e f : Encoding} {w : BitVec 32}

/-- No word with one opcode fits both: their fixed bits differ, or those of one of them are reserved
in the other. -/
def Excludes (e f : Encoding) : Prop :=
  e.opcode ≠ f.opcode ∨ e.fixed.Contradicts f.fixed ∨ (∃ p ∈ f.reserved, e.fixed.Implies p) ∨
    ∃ p ∈ e.reserved, f.fixed.Implies p

instance (e f : Encoding) : Decidable (e.Excludes f) := inferInstanceAs (Decidable (_ ∨ _))

theorem Excludes.symm (h : e.Excludes f) : f.Excludes e := by
  rcases h with h | h | h | h
  · exact Or.inl h.symm
  · exact Or.inr (Or.inl h.symm)
  · exact Or.inr (Or.inr (Or.inr h))
  · exact Or.inr (Or.inr (Or.inl h))

theorem Excludes.not_accepts (h : e.Excludes f) (hop : e.opcode = f.opcode) (he : e.Accepts w) :
    ¬ f.Accepts w := by
  intro hf
  rcases h with h | h | ⟨p, hp, h⟩ | ⟨p, hp, h⟩
  · exact h hop
  · exact h.not_matches he.1 hf.1
  · exact hf.2 p hp (h.matches he.1)
  · exact he.2 p hp (h.matches hf.1)

/-- The word is one of the encoding, which is of format `fmt` and reads the operands `o` from it. -/
def Yields (e : Encoding) (w : Word) (fmt : Format) (o : Operands) : Prop :=
  e.opcode = w.opcode ∧ e.Accepts w.value ∧ fmt = e.format ∧ o = e.read w.value

theorem yields_full_iff {fmt : Format} {o : Operands} (opcode : BitVec 7) (w : BitVec 32)
    (hop : e.opcode = .major opcode.toNat) (hreserved : e.reserved = []) :
    e.Yields (.full w) fmt o ↔
      opcode = w.extractLsb' 0 7 ∧ e.fixed.Matches w ∧ fmt = e.format ∧ o = e.read w := by
  rw [Yields, hop, Word.opcode_full_eq_iff, Accepts, hreserved]
  simp only [List.not_mem_nil, false_imp_iff, implies_true, and_true]
  rfl

theorem yields_half_iff {fmt : Format} {o : Operands} (k : Nat) (w : BitVec 16)
    (hop : e.opcode = .quadrant k) : e.Yields (.half w) fmt o ↔
      w.toNat % 4 = k ∧ e.fixed.Matches (w.setWidth 32) ∧
        (∀ p ∈ e.reserved, ¬ p.Matches (w.setWidth 32)) ∧
          fmt = e.format ∧ o = e.read (w.setWidth 32) := by
  rw [Yields, hop, Word.opcode_half_eq_iff, Accepts, and_assoc]
  rfl

end Encoding

/-! ## The operation of a word -/

namespace Mnemonic

def Fits (m : Mnemonic) (w : Word) : Prop :=
  m.encoding.opcode = w.opcode ∧ m.encoding.Accepts w.value

instance (m : Mnemonic) (w : Word) : Decidable (m.Fits w) := inferInstanceAs (Decidable (_ ∧ _))

theorem fits_iff_yields {m : Mnemonic} {w : Word} :
    m.Fits w ↔ m.encoding.Yields w m.encoding.format (m.encoding.read w.value) :=
  ⟨fun h => ⟨h.1, h.2, rfl, rfl⟩, fun h => ⟨h.1, h.2.1⟩⟩

theorem pairwise_excludes : all.Pairwise fun m n => m.encoding.Excludes n.encoding := by
  decide +kernel

theorem eq_of_fits {m n : Mnemonic} {w : Word} (hm : m.Fits w) (hn : n.Fits w) : m = n := by
  by_contra hne
  have hsymm : Std.Symm fun m n : Mnemonic => m.encoding.Excludes n.encoding :=
    ⟨fun _ _ h => h.symm⟩
  have h := pairwise_excludes.forall (mem_all m) (mem_all n) hne
  exact h.not_accepts (hm.1.trans hn.1.symm) hm.2 hn.2

/-- A fact on the table of operations is checked for one operation after the other. -/
instance decidableForall (P : Mnemonic → Prop) [DecidablePred P] : Decidable (∀ m, P m) :=
  decidable_of_iff (∀ m ∈ all, P m) ⟨fun h m => h m (mem_all m), fun h m _ => h m⟩

/-- An extension looks for its operations under the opcodes that they have. -/
theorem opcode_mem : ∀ m : Mnemonic, m.encoding.opcode ∈ m.extension.opcodes := by decide +kernel

end Mnemonic

/-! ## Decoding -/

namespace Extension

theorem operationAt?_eq_some_iff {e : Extension} {w : Word} {m : Mnemonic} :
    e.operationAt? w.opcode w = some m ↔ m.extension = e ∧ m.Fits w := by
  have hfound : ∀ n, e.operationAt? w.opcode w = some n → n.extension = e ∧ n.Fits w := by
    intro n h
    unfold operationAt? at h
    have hn := List.find?_some h
    rw [Bool.and_eq_true, beq_iff_eq, decide_eq_true_eq] at hn
    exact ⟨mem_mnemonics.1 (List.mem_of_find?_eq_some h), hn⟩
  constructor
  · exact hfound m
  · rintro ⟨he, hm⟩
    have hsome : (e.operationAt? w.opcode w).isSome := by
      refine List.find?_isSome.2 ⟨m, mem_mnemonics.2 he, ?_⟩
      rw [Bool.and_eq_true, beq_iff_eq, decide_eq_true_eq]
      exact hm
    obtain ⟨n, hn⟩ := Option.isSome_iff_exists.1 hsome
    rw [hn, Mnemonic.eq_of_fits (hfound n hn).2 hm]

theorem decode?_eq_some_iff {e : Extension} {w : Word} {i : Instruction} :
    e.decode? w = some i ↔ ∃ m : Mnemonic, m.extension = e ∧ m.Fits w ∧ i = m.instruction w := by
  rw [decode?, Option.map_eq_some_iff]
  constructor
  · rintro ⟨m, hm, rfl⟩
    obtain ⟨he, hf⟩ := operationAt?_eq_some_iff.1 hm
    exact ⟨m, he, hf, rfl⟩
  · rintro ⟨m, he, hf, rfl⟩
    exact ⟨m, operationAt?_eq_some_iff.2 ⟨he, hf⟩, rfl⟩

theorem opcodes_subset (e : Extension) : e.opcodes ⊆ Opcode.all := by cases e <;> decide

end Extension

namespace Isa

variable {s : Isa} {w : Word} {i : Instruction}

theorem mem_opcodes {k : Opcode} : k ∈ s.opcodes ↔ ∃ e, s.supports e ∧ k ∈ e.opcodes := by
  simp only [opcodes, List.mem_filter, List.any_eq_true, mem_extensions, List.contains_iff_mem]
  constructor
  · rintro ⟨-, e, he, hk⟩
    exact ⟨e, he, hk⟩
  · rintro ⟨e, he, hk⟩
    exact ⟨e.opcodes_subset hk, e, he, hk⟩

theorem findSome?_eq_some_iff : s.extensions.findSome? (·.decode? w) = some i ↔
    ∃ m : Mnemonic, s.supports m.extension ∧ m.Fits w ∧ i = m.instruction w := by
  constructor
  · intro h
    obtain ⟨e, he, hd⟩ := List.exists_of_findSome?_eq_some h
    obtain ⟨m, rfl, hm, rfl⟩ := Extension.decode?_eq_some_iff.1 hd
    exact ⟨m, mem_extensions.1 he, hm, rfl⟩
  · rintro ⟨m, hs, hm, rfl⟩
    have hd : m.extension.decode? w = some (m.instruction w) :=
      Extension.decode?_eq_some_iff.2 ⟨m, rfl, hm, rfl⟩
    have hsome : (s.extensions.findSome? (·.decode? w)).isSome :=
      List.findSome?_isSome_iff.2 ⟨m.extension, mem_extensions.2 hs, by rw [hd]; rfl⟩
    -- an extension before it may decode the word, but only to the same operation
    obtain ⟨j, hj⟩ := Option.isSome_iff_exists.1 hsome
    obtain ⟨e, -, he⟩ := List.exists_of_findSome?_eq_some hj
    obtain ⟨n, -, hn, rfl⟩ := Extension.decode?_eq_some_iff.1 he
    rw [hj, Mnemonic.eq_of_fits hn hm]

theorem decode_eq_ok_iff : s.decode w = .ok i ↔
    ∃ m : Mnemonic, s.supports m.extension ∧ m.Fits w ∧ i = m.instruction w := by
  rw [← findSome?_eq_some_iff, decode]
  constructor
  · intro h
    split at h
    · split at h
      · next hj => cases h; exact hj
      · cases h
    · cases h
  · intro h
    obtain ⟨m, hs, hm, -⟩ := findSome?_eq_some_iff.1 h
    have hk : s.opcodes.contains w.opcode = true :=
      List.contains_iff_mem.2 (mem_opcodes.2 ⟨_, hs, hm.1 ▸ m.opcode_mem⟩)
    rw [if_pos hk, h]

theorem decode_of_yields {m : Mnemonic} {fmt : Format} {o : Operands} (hs : s.supports m.extension)
    (h : m.encoding.Yields w fmt o) :
    ∃ i, s.decode w = .ok i ∧ i.mnemonic = m ∧ i.format = fmt ∧ i.operands = o ∧ i.word = w := by
  obtain ⟨hop, hacc, rfl, rfl⟩ := h
  exact ⟨m.instruction w, decode_eq_ok_iff.2 ⟨m, hs, ⟨hop, hacc⟩, rfl⟩, rfl, rfl, rfl, rfl⟩

theorem yields_of_decode (h : s.decode w = .ok i) :
    s.supports i.mnemonic.extension ∧ i.mnemonic.encoding.Yields w i.format i.operands := by
  obtain ⟨m, hs, hm, rfl⟩ := decode_eq_ok_iff.1 h
  exact ⟨hs, Mnemonic.fits_iff_yields.1 hm⟩

/-- Under an opcode in use, a word of no operation is an unknown encoding. -/
theorem decode_eq_unknown {e : Extension} (hs : s.supports e) (hk : w.opcode ∈ e.opcodes)
    (hw : ∀ (m : Mnemonic) fmt o, ¬ m.encoding.Yields w fmt o) :
    s.decode w = .error (.unknownEncoding w.opcode w) := by
  have hnone : s.extensions.findSome? (·.decode? w) = none := by
    rw [Option.eq_none_iff_forall_ne_some]
    intro i hi
    obtain ⟨m, -, hm, -⟩ := findSome?_eq_some_iff.1 hi
    exact hw m _ _ (Mnemonic.fits_iff_yields.1 hm)
  rw [decode, if_pos (List.contains_iff_mem.2 (mem_opcodes.2 ⟨e, hs, hk⟩)), hnone]

/-- A word that does not decode has an opcode that is not in use, or no encoding under one that
is. -/
theorem decode_cases (s : Isa) (w : Word) :
    (∃ i, s.decode w = .ok i) ∨
    (w.opcode ∉ s.opcodes ∧ s.decode w = .error (.unsupportedOpcode w.opcode)) ∨
    (w.opcode ∈ s.opcodes ∧ s.decode w = .error (.unknownEncoding w.opcode w)) := by
  unfold decode
  by_cases hk : w.opcode ∈ s.opcodes
  · rw [if_pos (List.contains_iff_mem.2 hk)]
    cases s.extensions.findSome? (·.decode? w) with
    | none => exact .inr (.inr ⟨hk, rfl⟩)
    | some i => exact .inl ⟨i, rfl⟩
  · rw [if_neg (by rwa [List.contains_iff_mem])]
    exact .inr (.inl ⟨hk, rfl⟩)

theorem decode_ne_truncated (s : Isa) (w : Word) (o : Nat) :
    s.decode w ≠ .error (.truncated o) := by
  rcases decode_cases s w with ⟨i, h⟩ | ⟨-, h⟩ | ⟨-, h⟩ <;> rw [h] <;> simp

end Isa

end Rv32
