import Rv32.Proofs.Disassembly
import Rv32.Proofs.Merging

/-!
# The operations of an instruction set

An instruction set lists the operations that it has. These are the ones that some word decodes to,
no more and no fewer.

* `Mnemonic.pairwise_all` : operations are listed in their order, each once;
* `Mnemonic.parse_eq_ok_iff` : a text is read as the one operation of this name;
* `Mnemonic.sample` : a word of the operation, so that none is listed in vain;
* `Isa.Produces` : some word decodes to the operation;
* `Isa.mnemonics_exact` : what is listed and recognized is what is produced.
-/

namespace Rv32

namespace Mnemonic

/-! ## The order of operations -/

/-- The operations of an extension are listed in their order if the list goes through the indices by
which they compare. -/
theorem pairwise_map_of_indices {α : Type} (op : α → Mnemonic) (index : α → Nat) {l : List α}
    (hop : ∀ a b, compare (op a) (op b) = (compare (index a) (index b)).then .eq)
    (hl : l.map index = List.range l.length) :
    (l.map op).Pairwise fun m n => compare m n = .lt := by
  have hlt : (l.map index).Pairwise (· < ·) := hl ▸ List.pairwise_lt_range
  rw [List.pairwise_map] at hlt ⊢
  refine hlt.imp fun {a b} hab => ?_
  rw [hop, Ordering.then_eq]
  exact Nat.compare_eq_lt.2 hab

theorem pairwise_all : all.Pairwise fun m n => compare m n = .lt := by
  have hinteger := pairwise_map_of_indices integer IntegerOp.ctorIdx (l := IntegerOp.all)
    (fun _ _ => rfl) (by decide +kernel)
  have hmultiply := pairwise_map_of_indices multiply MultiplyOp.ctorIdx (l := MultiplyOp.all)
    (fun _ _ => rfl) (by decide +kernel)
  have hcompressed := pairwise_map_of_indices compressed CompressedOp.ctorIdx
    (l := CompressedOp.all) (fun _ _ => rfl) (by decide +kernel)
  have hvector := pairwise_map_of_indices vector VectorOp.ctorIdx (l := VectorOp.all)
    (fun _ _ => rfl) (by decide +kernel)
  simp only [all, List.pairwise_append, List.forall_mem_append, List.forall_mem_map]
  -- operations of two extensions compare as the extensions do
  exact ⟨⟨⟨hinteger, hmultiply, fun _ _ _ _ => rfl⟩, hcompressed, fun _ _ _ _ => rfl,
    fun _ _ _ _ => rfl⟩, hvector, ⟨fun _ _ _ _ => rfl, fun _ _ _ _ => rfl⟩, fun _ _ _ _ => rfl⟩

/-! ## Names -/

theorem text_of_find? {m : Mnemonic} {name : String}
    (h : all.find? (fun m => m.text == name) = some m) : m.text = name := by
  have := List.find?_some h
  exact beq_iff_eq.1 this

theorem parse_eq_ok_iff {m : Mnemonic} {name : String} : parse name = .ok m ↔ m.text = name := by
  unfold parse
  constructor
  · intro h
    split at h
    · next n hn =>
      cases h
      exact text_of_find? hn
    · cases h
  · rintro rfl
    have hfound : (all.find? fun n => n.text == m.text).isSome :=
      List.find?_isSome.2 ⟨m, mem_all m, beq_self_eq_true m.text⟩
    obtain ⟨n, hn⟩ := Option.isSome_iff_exists.1 hfound
    rw [hn, text_injective (text_of_find? hn)]

/-! ## A word of each operation -/

/-- The word of the operation whose other bits are all set. -/
def sample (m : Mnemonic) : Word :=
  let known := m.encoding.opcode.mask ||| m.encoding.fixed.care
  let value := BitVec.ofNat 32 m.encoding.opcode.code ||| m.encoding.fixed.value
  .ofNat m.width (value ||| ~~~ known).toNat

theorem fits_sample : ∀ m : Mnemonic, m.Fits m.sample := by decide +kernel

end Mnemonic

/-! ## Instruction sets -/

namespace Isa

variable {s : Isa} {m : Mnemonic}

/-- Some word decodes to an instruction of the operation. -/
def Produces (s : Isa) (m : Mnemonic) : Prop := ∃ w i, s.decode w = .ok i ∧ i.mnemonic = m

theorem produces_iff : s.Produces m ↔ s.supports m.extension := by
  constructor
  · rintro ⟨w, i, hi, rfl⟩
    exact (yields_of_decode hi).1
  · intro hs
    exact ⟨m.sample, m.instruction m.sample,
      decode_eq_ok_iff.2 ⟨m, hs, m.fits_sample, rfl⟩, rfl⟩

theorem mem_mnemonics : m ∈ s.mnemonics ↔ s.supports m.extension := by
  rw [mnemonics, List.mem_filter, and_iff_right (Mnemonic.mem_all m)]

theorem recognizes_iff {name : String} :
    s.recognizes name ↔ ∃ m ∈ s.mnemonics, m.text = name := by
  unfold recognizes
  split
  · next m hm =>
    rw [List.contains_iff_mem]
    constructor
    · intro h
      exact ⟨m, h, Mnemonic.parse_eq_ok_iff.1 hm⟩
    · rintro ⟨n, hn, hname⟩
      rw [Mnemonic.parse_eq_ok_iff.2 hname] at hm
      cases hm
      exact hn
  · next e he =>
    refine iff_of_false Bool.false_ne_true ?_
    rintro ⟨m, -, hname⟩
    rw [Mnemonic.parse_eq_ok_iff.2 hname] at he
    cases he

/-- The operations that are listed are those that some word decodes to. Each is listed once, in the
order of operations; the names that are recognized are theirs; and whatever an enabled extension
answers to a word, it is an instruction of a listed operation. -/
theorem mnemonics_exact (s : Isa) :
    (∀ m, m ∈ s.mnemonics ↔ s.Produces m) ∧
    s.mnemonics.Nodup ∧ s.mnemonics.Pairwise (fun m n => compare m n = .lt) ∧
    (∀ name, s.recognizes name ↔ ∃ m, s.Produces m ∧ m.text = name) ∧
    ∀ e w i, s.supports e → e.Offers w i → i.mnemonic ∈ s.mnemonics := by
  have hmem : ∀ m, m ∈ s.mnemonics ↔ s.Produces m := fun m => mem_mnemonics.trans produces_iff.symm
  have hsorted : s.mnemonics.Pairwise fun m n => compare m n = .lt :=
    Mnemonic.pairwise_all.filter _
  have hnodup : s.mnemonics.Nodup := (List.Nodup.of_map _ Mnemonic.nodup_codes).filter _
  refine ⟨hmem, hnodup, hsorted, fun name => ?_, fun e w i he hi => ?_⟩
  · simp only [recognizes_iff, hmem]
  · exact (hmem _).2 ⟨w, i, decode_eq_ok_iff_offers.2 ⟨e, he, hi⟩, rfl⟩

/-- Without the vector extension a load of vectors is no name, and a load from the stack is one. -/
theorem mnemonics_of_rv32imc :
    rv32imc.recognizes "c.lwsp" ∧ ¬ rv32imc.recognizes "vle32.v" ∧
    rv32imc.Produces (.compressed .lwsp) ∧ ¬ rv32imc.Produces (.vector .vle32) ∧
    (∃ w i, Extension.compressed.Offers w i ∧ i.mnemonic ∈ rv32imc.mnemonics) ∧
    rv32imc.mnemonics.length = 90 := by
  obtain ⟨hmem, -, -, hname, hoffer⟩ := mnemonics_exact rv32imc
  have hlwsp : rv32imc.Produces (.compressed .lwsp) := (hmem _).1 (by decide +kernel)
  have hvle : ¬ rv32imc.Produces (.vector .vle32) := mt (hmem _).2 (by decide +kernel)
  have hword : Extension.compressed.Offers (.half 0x4082)
      (Mnemonic.instruction (.compressed .lwsp) (.half 0x4082)) := ⟨by decide, by rfl⟩
  refine ⟨(hname _).2 ⟨_, hlwsp, rfl⟩, ?_, hlwsp, hvle,
    ⟨_, _, hword, hoffer _ _ _ (by decide) hword⟩, by decide +kernel⟩
  rw [hname]
  rintro ⟨m, hm, htext⟩
  rw [Mnemonic.text_injective (htext.trans (rfl : _ = (Mnemonic.vector .vle32).text))] at hm
  exact hvle hm

end Isa

end Rv32
