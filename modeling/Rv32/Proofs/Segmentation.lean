import Rv32.Proofs.Merging
import Rv32.Proofs.Tiling

/-!
# One code under two instruction sets

Where the instructions of some code begin is a matter of the code. The instruction set has a part
only in what is said of each of them.

* `Stream.under` : the same place of a stream, read under another instruction set;
* `Item.InStep s t` : what `s` and `t` say of one instruction;
* `Stream.next?_under_of_some`, `Stream.next?_under_of_none` : two streams at one place take the same
  step;
* `Stream.forall₂_items_under` : so they stay in step to the end;
* `Stream.items_segmented` : the items of some code under any two instruction sets.
-/

namespace Rv32

/-- What the instruction sets `s` and `t` say of the instruction at one place: they agree on the place
and on whether the bytes end within the instruction, and what decodes under `s` is the same
instruction under `t` if that has all extensions of `s`. -/
structure Item.InStep (s t : Isa) (i j : Item) : Prop where
  offset_eq : i.offset = j.offset
  truncated_iff : ∀ o, i.result = .error (.truncated o) ↔ j.result = .error (.truncated o)
  ok_of_le : (∀ e, s.supports e → t.supports e) → ∀ x, i.result = .ok x → j.result = .ok x

namespace Stream

variable {p q : Stream} {t : Isa} {i : Item}

/-- The same place, read under the instruction set `t`. -/
def under (p : Stream) (t : Isa) : Stream := { p with isa := t }

theorem inStep_result (p : Stream) (t : Isa) (f : Fetch) :
    Item.InStep p.isa t ⟨p.offset, p.result f⟩ ⟨p.offset, (p.under t).result f⟩ := by
  cases f with
  | cut => exact ⟨rfl, fun _ => Iff.rfl, fun _ _ h => h⟩
  | word w =>
    refine ⟨rfl, fun o => ?_, fun hle x hx => Isa.decode_of_le hle hx⟩
    -- a word that is there is reported as truncated by no instruction set
    exact iff_of_false (p.isa.decode_ne_truncated w o) (t.decode_ne_truncated w o)

/-! ## One step -/

theorem next?_under_of_none (h : p.next? = none) : (p.under t).next? = none := by
  have hf : fetch p.rest = none := by
    unfold next? at h
    cases hf : fetch p.rest with
    | none => rfl
    | some r => simp [hf] at h
  unfold next? under
  simp only [hf]

theorem next?_under_of_some (h : p.next? = some (i, q)) :
    q.isa = p.isa ∧ ∃ j, (p.under t).next? = some (j, q.under t) ∧ Item.InStep p.isa t i j := by
  unfold next? at h
  cases hf : fetch p.rest with
  | none => simp [hf] at h
  | some r =>
    obtain ⟨f, rest⟩ := r
    simp only [hf, Option.some.injEq, Prod.mk.injEq] at h
    obtain ⟨rfl, rfl⟩ := h
    refine ⟨rfl, ⟨p.offset, (p.under t).result f⟩, ?_, inStep_result p t f⟩
    unfold next?
    simp only [under, hf]

/-! ## The whole run -/

theorem forall₂_items_under (p : Stream) (t : Isa) :
    List.Forall₂ (Item.InStep p.isa t) p.items (p.under t).items := by
  fun_induction items p with
  | case1 p h =>
    rw [items_of_none (next?_under_of_none h)]
    exact .nil
  | case2 p i q h ih =>
    obtain ⟨hisa, j, hj, hstep⟩ := next?_under_of_some (t := t) h
    rw [items_of_some hj]
    rw [hisa] at ih
    exact .cons hstep ih

/-- Under any two instruction sets the items of some code are as many, begin at the same offsets, and
are truncated at the same ones. If the second set has all extensions of the first, it decodes each
item that the first decodes, to the same instruction. -/
theorem items_segmented (s t : Isa) (B : List Byte) :
    let a : List Item := (ofBytes s B).items
    let b : List Item := (ofBytes t B).items
    a.length = b.length ∧
    ∀ (k : Nat) (i j : Item), a[k]? = some i → b[k]? = some j →
      i.offset = j.offset ∧
      (∀ o, i.result = .error (.truncated o) ↔ j.result = .error (.truncated o)) ∧
      ((∀ e, s.supports e → t.supports e) → ∀ x, i.result = .ok x → j.result = .ok x) := by
  intro a b
  have hrun : List.Forall₂ (Item.InStep s t) a b := forall₂_items_under (ofBytes s B) t
  obtain ⟨hlength, hget⟩ := List.forall₂_iff_get.1 hrun
  refine ⟨hlength, fun k i j hi hj => ?_⟩
  obtain ⟨hka, rfl⟩ := List.getElem?_eq_some_iff.1 hi
  obtain ⟨hkb, rfl⟩ := List.getElem?_eq_some_iff.1 hj
  have hstep := hget k hka hkb
  exact ⟨hstep.offset_eq, hstep.truncated_iff, hstep.ok_of_le⟩

/-- A half word, a full word and one byte of another, under a set that knows no half words and under
one that does. -/
theorem items_segmented_mixed :
    let B : List Byte := [0x01, 0x45, 0x93, 0x02, 0x05, 0x00, 0x93]
    let a : List Item := (ofBytes .rv32i B).items
    let b : List Item := (ofBytes .rv32imc B).items
    a[0]? = some ⟨0, .error (.unsupportedOpcode (.quadrant 1))⟩ ∧
    (∃ x : Instruction, a[1]? = some ⟨2, .ok x⟩ ∧ b[1]? = some ⟨2, .ok x⟩) ∧
    a[2]? = some ⟨6, .error (.truncated 6)⟩ ∧ b[2]? = some ⟨6, .error (.truncated 6)⟩ ∧
    b[3]? = none := by
  intro B a b
  obtain ⟨hlength, hitem⟩ := items_segmented .rv32i .rv32imc B
  have hle : ∀ e, Isa.rv32i.supports e → Isa.rv32imc.supports e := by intro e; cases e <;> decide
  obtain ⟨x, hx⟩ : ∃ x, Isa.rv32i.decode (.full 0x00050293) = .ok x := ⟨_, rfl⟩
  have hfirst : a[0]? = some ⟨0, .error (.unsupportedOpcode (.quadrant 1))⟩ := getElem?_items _ 0
  have hsecond : a[1]? = some ⟨2, .ok x⟩ := by rw [← hx]; exact getElem?_items _ 1
  have hthird : a[2]? = some ⟨6, .error (.truncated 6)⟩ := getElem?_items _ 2
  have hend : a[3]? = none := getElem?_items _ 3
  have hother : ∀ (k : Nat) (i : Item), a[k]? = some i → ∃ j : Item, b[k]? = some j := by
    intro k i hi
    obtain ⟨hk, -⟩ := List.getElem?_eq_some_iff.1 hi
    exact ⟨_, List.getElem?_eq_getElem (hlength ▸ hk)⟩
  refine ⟨hfirst, ⟨x, hsecond, ?_⟩, hthird, ?_, ?_⟩
  · obtain ⟨⟨o, r⟩, hj⟩ := hother 1 _ hsecond
    obtain ⟨ho, -, hok⟩ := hitem 1 _ _ hsecond hj
    obtain rfl : 2 = o := ho
    obtain rfl : r = .ok x := hok hle x rfl
    exact hj
  · obtain ⟨⟨o, r⟩, hj⟩ := hother 2 _ hthird
    obtain ⟨ho, hcut, -⟩ := hitem 2 _ _ hthird hj
    obtain rfl : 6 = o := ho
    obtain rfl : r = .error (.truncated 6) := (hcut 6).1 rfl
    exact hj
  · rw [List.getElem?_eq_none_iff, ← hlength]
    exact List.getElem?_eq_none_iff.1 hend

end Stream

end Rv32
