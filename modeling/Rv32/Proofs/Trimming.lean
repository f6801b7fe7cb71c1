import Mathlib
import Rv32.Text.Blank

/-!
# What stands around a text

* `forall_char` : characters beyond ASCII are told apart from the others;
* `Trims cs m` : `m` stands in `cs` between blanks and has none at either end; `trims_iff` : `trim`
  finds it;
* `trim_frame` : blanks around a text without blanks are all that `trim` takes away;
* `trim_map` : a change of characters that keeps the blanks can be made before or after;
* `Follows marks cs rest` : `rest` is `cs` behind one of the marks, or all of `cs` if it begins with
  none.
-/

namespace Rv32.Text

variable {cs m : List Char} {c : Char}

/-! ## Characters -/

/-- A property of characters is checked on the 128 codes of ASCII and shown for the others. -/
theorem forall_char {P : Char → Prop} (hascii : ∀ n < 128, P (Char.ofNat n))
    (hother : ∀ c : Char, 128 ≤ c.toNat → P c) (c : Char) : P c := by
  by_cases h : c.toNat < 128
  · have hc := hascii c.toNat h
    rwa [Char.ofNat_toNat] at hc
  · exact hother c (Nat.not_lt.1 h)

theorem toLower_of_le (h : 128 ≤ c.toNat) : c.toLower = c := by
  have hle : ¬ (c.val ≥ 'A'.val ∧ c.val ≤ 'Z'.val) := by
    rintro ⟨-, hc⟩
    have : c.toNat ≤ 90 := hc
    omega
  rw [Char.toLower, dif_neg hle]

theorem toUpper_of_le (h : 128 ≤ c.toNat) : c.toUpper = c := by
  have hle : ¬ ('a'.val ≤ c.val ∧ c.val ≤ 'z'.val) := by
    rintro ⟨-, hc⟩
    have : c.toNat ≤ 122 := hc
    omega
  rw [Char.toUpper, dif_neg hle]

/-! ## Blanks at either end -/

/-- The characters `m` stand in `cs` between blanks and have no blank at either end. -/
structure Trims (cs m : List Char) : Prop where
  exists_frame : ∃ before after, cs = before ++ m ++ after ∧
    (∀ c ∈ before, isBlank c) ∧ ∀ c ∈ after, isBlank c
  not_head : ∀ c ∈ m.head?, ¬ isBlank c
  not_last : ∀ c ∈ m.getLast?, ¬ isBlank c

theorem dropWhile_isBlank (h : ∀ c ∈ m.head?, ¬ isBlank c) : m.dropWhile isBlank = m := by
  cases m with
  | nil => rfl
  | cons c m => exact List.dropWhile_cons_of_neg (h c rfl)

theorem not_head_dropWhile (cs : List Char) :
    ∀ c ∈ (cs.dropWhile isBlank).head?, ¬ isBlank c := by
  intro c hc
  have h := List.head?_dropWhile_not isBlank cs
  rw [Option.mem_def.1 hc] at h
  simp [h]

theorem trims_trim (cs : List Char) : Trims cs (trim cs) := by
  have hfront : cs.takeWhile isBlank ++ cs.dropWhile isBlank = cs :=
    List.takeWhile_append_dropWhile
  have hback : trim cs ++ ((cs.dropWhile isBlank).reverse.takeWhile isBlank).reverse =
      cs.dropWhile isBlank := by
    rw [trim, ← List.reverse_append, List.takeWhile_append_dropWhile, List.reverse_reverse]
  refine ⟨⟨cs.takeWhile isBlank, ((cs.dropWhile isBlank).reverse.takeWhile isBlank).reverse,
    ?_, ?_, ?_⟩, ?_, ?_⟩
  · rw [List.append_assoc, hback, hfront]
  · exact fun c hc => List.mem_takeWhile_imp hc
  · exact fun c hc => List.mem_takeWhile_imp (List.mem_reverse.1 hc)
  · intro c hc
    -- the first character is also the first one behind the blanks in front
    have hc' : c ∈ (cs.dropWhile isBlank).head? := by
      rw [← hback, List.head?_append, Option.mem_def.1 hc]
      rfl
    exact not_head_dropWhile cs c hc'
  · intro c hc
    rw [trim, List.getLast?_reverse] at hc
    exact not_head_dropWhile _ c hc

theorem Trims.eq (h : Trims cs m) : m = trim cs := by
  obtain ⟨before, after, rfl, hbefore, hafter⟩ := h.exists_frame
  rw [trim, List.append_assoc, List.dropWhile_append_of_pos hbefore]
  by_cases hm : m = []
  · rw [hm, List.nil_append, List.dropWhile_eq_nil_iff.2 hafter]
    rfl
  · have hfront : ∀ c ∈ (m ++ after).head?, ¬ isBlank c := by
      rw [List.head?_append_of_ne_nil m hm]
      exact h.not_head
    have hback : ∀ c ∈ m.reverse.head?, ¬ isBlank c := by
      rw [List.head?_reverse]
      exact h.not_last
    rw [dropWhile_isBlank hfront, List.reverse_append,
      List.dropWhile_append_of_pos fun c hc => hafter c (List.mem_reverse.1 hc),
      dropWhile_isBlank hback, List.reverse_reverse]

theorem trims_iff : Trims cs m ↔ m = trim cs :=
  ⟨Trims.eq, fun h => h ▸ trims_trim cs⟩

theorem trim_frame {before after : List Char} (hbefore : ∀ c ∈ before, isBlank c)
    (hafter : ∀ c ∈ after, isBlank c) (hm : ∀ c ∈ m, ¬ isBlank c) :
    trim (before ++ m ++ after) = m := by
  refine (Trims.eq ⟨⟨before, after, rfl, hbefore, hafter⟩, ?_, ?_⟩).symm
  · exact fun c hc => hm c (List.mem_of_mem_head? hc)
  · exact fun c hc => hm c (List.mem_of_mem_getLast? hc)

theorem trim_map {f : Char → Char} (hf : ∀ c, isBlank (f c) = isBlank c) (cs : List Char) :
    trim (cs.map f) = (trim cs).map f := by
  have hcomp : isBlank ∘ f = isBlank := funext hf
  rw [trim, List.dropWhile_map, hcomp, ← List.map_reverse, List.dropWhile_map, hcomp,
    ← List.map_reverse, trim]

/-! ## Marks in front -/

/-- What stands in `cs` behind one of the marks is `rest`; it is all of `cs` if that begins with no
mark. -/
def Follows (marks : List (List Char)) (cs rest : List Char) : Prop :=
  (∃ mark ∈ marks, cs = mark ++ rest) ∨ ((∀ mark ∈ marks, ¬ mark <+: cs) ∧ rest = cs)

/-- A function that drops each of the marks, and drops nothing where there is none, finds what
follows them. -/
theorem follows_iff {marks : List (List Char)} {drop : List Char → List Char} {rest : List Char}
    (hmark : ∀ mark ∈ marks, ∀ cs, drop (mark ++ cs) = cs)
    (hnone : ∀ cs, (∀ mark ∈ marks, ¬ mark <+: cs) → drop cs = cs) :
    Follows marks cs rest ↔ rest = drop cs := by
  constructor
  · rintro (⟨mark, hmem, rfl⟩ | ⟨h, rfl⟩)
    · exact (hmark mark hmem rest).symm
    · exact (hnone rest h).symm
  · rintro rfl
    by_cases h : ∃ mark ∈ marks, mark <+: cs
    · obtain ⟨mark, hmem, rest, rfl⟩ := h
      exact .inl ⟨mark, hmem, by rw [hmark mark hmem]⟩
    · have h' : ∀ mark ∈ marks, ¬ mark <+: cs := fun mark hmem hpre => h ⟨mark, hmem, hpre⟩
      exact .inr ⟨h', hnone cs h'⟩

end Rv32.Text
