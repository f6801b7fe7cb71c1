import Mathlib
import Rv32.Proofs.IsaNames

/-!
# Underscores in the names of instruction sets

Underscores may stand among the letters of a name. Family and size are looked for before underscores
are left out, and blanks around the name before that, so that an underscore in front of them or
within them hides them.

* `Text.eraseUnderscores` : a text without its underscores;
* `Text.Hides mark cs` : an underscore keeps the characters from beginning with the mark;
* `Isa.Separates s` : the underscores of the name hide neither family nor size nor a blank around it;
* `Isa.letters_of_separates` : such a name keeps its letters without its underscores;
* `Isa.separates_of_forall` : a name of letters is such a name;
* `Isa.Recurs s c` : without its underscores the name comes to `c` once more, behind what they hide;
  `Isa.stopsAt_erase_iff` : if so, a name that is refused for `c` is refused for it without them;
* `Isa.parse_without_underscores` : when a name is read as it is without its underscores.
-/

namespace Rv32

namespace Text

variable {c : Char} {cs m : List Char}

/-- The text without its underscores. -/
def eraseUnderscores (s : String) : String := String.ofList (s.toList.filter (· != '_'))

theorem toUpper_bne_underscore (c : Char) : (c.toUpper != '_') = (c != '_') := by
  revert c
  apply forall_char
  · decide +kernel
  · intro c hc
    rw [toUpper_of_le hc]

theorem trim_append_blanks {before after : List Char} (hbefore : ∀ c ∈ before, isBlank c)
    (hafter : ∀ c ∈ after, isBlank c) (m : List Char) : trim (before ++ m ++ after) = trim m := by
  have hm := trims_trim m
  obtain ⟨before', after', hframe, hbefore', hafter'⟩ := hm.exists_frame
  refine (Trims.eq ⟨⟨before ++ before', after' ++ after, ?_, ?_, ?_⟩, hm.not_head, hm.not_last⟩).symm
  · nth_rewrite 1 [hframe]
    simp only [List.append_assoc]
  · exact List.forall_mem_append.2 ⟨hbefore, hbefore'⟩
  · exact List.forall_mem_append.2 ⟨hafter', hafter⟩

theorem exists_trim_append (h : ∀ x ∈ cs.head?, ¬ isBlank x) :
    ∃ after, cs = trim cs ++ after ∧ ∀ x ∈ after, isBlank x := by
  obtain ⟨before, after, hframe, hbefore, hafter⟩ := (trims_trim cs).exists_frame
  cases before with
  | nil => exact ⟨after, hframe, hafter⟩
  | cons b before =>
    have hb : b ∈ cs.head? := by
      rw [hframe]
      rfl
    exact absurd (hbefore b List.mem_cons_self) (h b hb)

/-- A mark without blanks does not reach into blanks that stand behind a text. -/
theorem prefix_of_prefix_append {mark after : List Char} (hmark : ∀ x ∈ mark, ¬ isBlank x)
    (hafter : ∀ x ∈ after, isBlank x) (h : mark <+: cs ++ after) : mark <+: cs := by
  rcases List.prefix_or_prefix_of_prefix h (List.prefix_append cs after) with hpre | ⟨rest, rfl⟩
  · exact hpre
  · have hrest : rest <+: after := (List.prefix_append_right_inj cs).1 h
    have hnil : rest = [] := by
      refine List.eq_nil_iff_forall_not_mem.2 fun x hx => ?_
      exact hmark x (List.mem_append_right _ hx) (hafter x (hrest.subset hx))
    rw [hnil, List.append_nil]

/-- A mark without blanks is dropped before or after blanks are put behind a text. -/
theorem drop_append_blanks {mark after : List Char} {drop : List Char → List Char}
    (hdrop : ∀ {cs rest}, Follows [mark] cs rest ↔ rest = drop cs)
    (hmark : ∀ x ∈ mark, ¬ isBlank x) (hafter : ∀ x ∈ after, isBlank x) (cs : List Char) :
    drop (cs ++ after) = drop cs ++ after := by
  symm
  apply hdrop.1
  have hcs : Follows [mark] cs (drop cs) := hdrop.2 rfl
  simp only [Follows, List.mem_singleton, exists_eq_left, forall_eq] at hcs ⊢
  rcases hcs with hcs | ⟨hnone, hcs⟩
  · left
    nth_rewrite 1 [hcs]
    rw [List.append_assoc]
  · right
    rw [hcs]
    exact ⟨fun hfound => hnone (prefix_of_prefix_append hmark hafter hfound), rfl⟩

/-- The characters begin with the mark only if their underscores are left out. -/
def Hides (mark cs : List Char) : Prop := mark <+: cs.filter (· != '_') ∧ ¬ mark <+: cs

theorem Hides.mem (h : Hides (c :: m) cs) : c ∈ cs :=
  List.mem_of_mem_filter (h.1.subset List.mem_cons_self)

/-- A mark that is not hidden is dropped before or after underscores are left out. -/
theorem drop_filter {mark : List Char} {drop : List Char → List Char}
    (hdrop : ∀ {cs rest}, Follows [mark] cs rest ↔ rest = drop cs)
    (hmark : mark.filter (· != '_') = mark) (h : ¬ Hides mark cs) :
    drop (cs.filter (· != '_')) = (drop cs).filter (· != '_') := by
  symm
  apply hdrop.1
  have hcs : Follows [mark] cs (drop cs) := hdrop.2 rfl
  simp only [Follows, List.mem_singleton, exists_eq_left, forall_eq] at hcs ⊢
  rcases hcs with hcs | ⟨hnone, hcs⟩
  · left
    nth_rewrite 1 [hcs]
    rw [List.filter_append, hmark]
  · right
    rw [hcs]
    exact ⟨fun hfound => h ⟨hfound, hnone⟩, rfl⟩

end Text

namespace Isa

variable {s : String} {c : Char} {l mark : List Char}

/-- The characters of the name between the blanks around it, in upper case. -/
def inner (s : String) : List Char := (Text.trim s.toList).map Char.toUpper

theorem letters_eq (s : String) : letters s = dropSize (dropFamily (inner s)) := rfl

/-- The characters of the name between the blanks around it, in upper case and without underscores;
new blanks may be at their ends. -/
def plain (s : String) : List Char := (inner s).filter (· != '_')

/-- Upper case makes and removes no underscores, so that they can be left out behind it. Blanks that
were next to an underscore within the text may then be at its ends. -/
theorem inner_erase (s : String) : inner (Text.eraseUnderscores s) = Text.trim (plain s) := by
  obtain ⟨before, after, hframe, hbefore, hafter⟩ := (Text.trims_trim s.toList).exists_frame
  have hkeep : ∀ l : List Char, (∀ c ∈ l, Text.isBlank c) → l.filter (· != '_') = l := by
    intro l hl
    refine List.filter_eq_self.2 fun c hc => bne_iff_ne.2 ?_
    rintro rfl
    exact absurd (hl _ hc) (by decide)
  have herase : (Text.eraseUnderscores s).toList =
      before ++ (Text.trim s.toList).filter (· != '_') ++ after := by
    rw [Text.eraseUnderscores, String.toList_ofList]
    nth_rewrite 1 [hframe]
    rw [List.filter_append, List.filter_append, hkeep before hbefore, hkeep after hafter]
  have hupper : plain s =
      ((Text.trim s.toList).filter (· != '_')).map Char.toUpper := by
    rw [plain, inner, List.filter_map]
    exact congrArg _ (List.filter_congr fun c _ => Text.toUpper_bne_underscore c)
  rw [hupper, Text.trim_map Text.isBlank_toUpper, inner, herase,
    Text.trim_append_blanks hbefore hafter]

/-! ## In front of the letters -/

/-- What may stand in front of the letters. -/
def marks : List (List Char) := [[], ['R', 'V'], ['3', '2'], ['R', 'V', '3', '2']]

theorem family_cases (cs : List Char) :
    cs = ['R', 'V'] ++ dropFamily cs ∨ (¬ ['R', 'V'] <+: cs ∧ dropFamily cs = cs) := by
  have h := follows_family_iff.2 (rfl : dropFamily cs = dropFamily cs)
  simpa only [Text.Follows, List.mem_singleton, exists_eq_left, forall_eq] using h

theorem size_cases (cs : List Char) :
    cs = ['3', '2'] ++ dropSize cs ∨ (¬ ['3', '2'] <+: cs ∧ dropSize cs = cs) := by
  have h := follows_size_iff.2 (rfl : dropSize cs = dropSize cs)
  simpa only [Text.Follows, List.mem_singleton, exists_eq_left, forall_eq] using h

theorem exists_mark_of_family (h : ['R', 'V'] <+: l) :
    ∃ mark ∈ [['R', 'V'], ['R', 'V', '3', '2']], l = mark ++ dropSize (dropFamily l) := by
  have hfamily := (family_cases l).resolve_right fun h' => h'.1 h
  rcases size_cases (dropFamily l) with hsize | ⟨-, hsize⟩
  · refine ⟨['R', 'V', '3', '2'], by simp, ?_⟩
    nth_rewrite 1 [hfamily, hsize]
    rfl
  · exact ⟨['R', 'V'], by simp, by rw [hsize, ← hfamily]⟩

theorem exists_mark_of_size (h : ['3', '2'] <+: dropFamily l) :
    ∃ mark ∈ [['3', '2'], ['R', 'V', '3', '2']], l = mark ++ dropSize (dropFamily l) := by
  have hsize := (size_cases (dropFamily l)).resolve_right fun h' => h'.1 h
  rcases family_cases l with hfamily | ⟨-, hfamily⟩
  · refine ⟨['R', 'V', '3', '2'], by simp, ?_⟩
    nth_rewrite 1 [hfamily, hsize]
    rfl
  · exact ⟨['3', '2'], by simp, by rw [← hsize, hfamily]⟩

theorem exists_mark (l : List Char) : ∃ mark ∈ marks, l = mark ++ dropSize (dropFamily l) := by
  rcases family_cases l with hfamily | ⟨-, hfamily⟩
  · obtain ⟨mark, hmem, hl⟩ := exists_mark_of_family ⟨_, hfamily.symm⟩
    have hsub : [['R', 'V'], ['R', 'V', '3', '2']] ⊆ marks := by decide
    exact ⟨mark, hsub hmem, hl⟩
  · rcases size_cases (dropFamily l) with hsize | ⟨-, hsize⟩
    · obtain ⟨mark, hmem, hl⟩ := exists_mark_of_size ⟨_, hsize.symm⟩
      have hsub : [['3', '2'], ['R', 'V', '3', '2']] ⊆ marks := by decide
      exact ⟨mark, hsub hmem, hl⟩
    · exact ⟨[], by simp [marks], by rw [hsize, hfamily]; rfl⟩

theorem dropFamily_of_head (h : ∀ c ∈ l.head?, c ≠ 'R') : dropFamily l = l := by
  unfold dropFamily
  split
  · exact absurd rfl (h 'R' rfl)
  · rfl

theorem dropSize_of_head (h : ∀ c ∈ l.head?, c ≠ '3') : dropSize l = l := by
  unfold dropSize
  split
  · exact absurd rfl (h '3' rfl)
  · rfl

theorem drop_mark (hmark : mark ∈ marks) (h : ∀ c ∈ l.head?, c ≠ 'R' ∧ c ≠ '3') :
    dropSize (dropFamily (mark ++ l)) = l := by
  have hfamily := dropFamily_of_head fun c hc => (h c hc).1
  have hsize := dropSize_of_head fun c hc => (h c hc).2
  simp only [marks, List.mem_cons, List.not_mem_nil, or_false] at hmark
  rcases hmark with rfl | rfl | rfl | rfl
  · rw [List.nil_append, hfamily, hsize]
  · exact hsize
  · rfl
  · rfl

theorem not_isBlank_of_mem_marks (hmark : mark ∈ marks) : ∀ c ∈ mark, ¬ Text.isBlank c := by
  have hall : marks.all fun mark => mark.all fun c => !Text.isBlank c := by decide
  intro c hc
  simpa using List.all_eq_true.1 (List.all_eq_true.1 hall mark hmark) c hc

theorem family_of_mem_mark (hmark : mark ∈ marks) (h : 'R' ∈ mark) : ['R', 'V'] <+: mark := by
  simp only [marks, List.mem_cons, List.not_mem_nil, or_false] at hmark
  rcases hmark with rfl | rfl | rfl | rfl
  · exact absurd h (by decide)
  · exact ⟨[], rfl⟩
  · exact absurd h (by decide)
  · exact ⟨['3', '2'], rfl⟩

theorem filter_mark (hmark : mark ∈ marks) : mark.filter (· != '_') = mark := by
  simp only [marks, List.mem_cons, List.not_mem_nil, or_false] at hmark
  rcases hmark with rfl | rfl | rfl | rfl <;> rfl

theorem exists_mark_plain (s : String) :
    ∃ mark ∈ marks, plain s = mark ++ (letters s).filter (· != '_') := by
  obtain ⟨mark, hmark, hinner⟩ := exists_mark (inner s)
  refine ⟨mark, hmark, ?_⟩
  rw [plain, hinner, List.filter_append, filter_mark hmark, ← letters_eq]

theorem drop_plain (hfamily : ¬ Text.Hides ['R', 'V'] (inner s))
    (hsize : ¬ Text.Hides ['3', '2'] (dropFamily (inner s))) :
    dropSize (dropFamily (plain s)) = (letters s).filter (· != '_') := by
  rw [plain, Text.drop_filter follows_family_iff rfl hfamily,
    Text.drop_filter follows_size_iff rfl hsize, ← letters_eq]

/-! ## The character that a name is refused for -/

theorem nameLetters_plain (h : c ∈ nameLetters) : ¬ Text.isBlank c ∧ c ≠ 'R' ∧ c ≠ '3' := by
  simp only [nameLetters, List.mem_cons, List.not_mem_nil, or_false] at h
  rcases h with rfl | rfl | rfl | rfl | rfl <;> decide

theorem StopsAt.filter (h : StopsAt l c) : StopsAt (l.filter (· != '_')) c := by
  obtain ⟨front, back, rfl, hfront, hc⟩ := h
  have hkept : (c != '_') = true := bne_iff_ne.2 fun hc' => hc (hc' ▸ by decide)
  refine ⟨front.filter (· != '_'), back.filter (· != '_'), ?_, ?_, hc⟩
  · rw [List.filter_append, List.filter_cons, if_pos hkept]
  · exact fun x hx => hfront x (List.mem_of_mem_filter hx)

theorem StopsAt.head (h : StopsAt l c) : ∀ x ∈ l.head?, x ∈ nameLetters ∨ x = c := by
  obtain ⟨front, back, rfl, hfront, -⟩ := h
  intro x hx
  cases front with
  | nil => exact .inr (Option.some.inj hx).symm
  | cons y front =>
    obtain rfl := Option.some.inj hx
    exact .inl (hfront y List.mem_cons_self)

theorem stopsAt_append_blanks {after : List Char} (hc : ¬ Text.isBlank c)
    (hafter : ∀ x ∈ after, Text.isBlank x) : StopsAt (l ++ after) c ↔ StopsAt l c := by
  constructor
  · rintro ⟨front, back, heq, hfront, hmem⟩
    have hlast : c ∉ after := fun h => hc (hafter c h)
    rcases List.append_eq_append_iff.1 heq with ⟨rest, rfl, hrest⟩ | ⟨rest, rfl, hrest⟩
    · exact absurd (hrest ▸ List.mem_append_right _ List.mem_cons_self) hlast
    · cases rest with
      | nil =>
        rw [List.nil_append] at hrest
        exact absurd (hrest ▸ List.mem_cons_self) hlast
      | cons d rest =>
        obtain ⟨rfl, -⟩ := List.cons.inj hrest
        exact ⟨front, rest, rfl, hfront, hmem⟩
  · rintro ⟨front, back, rfl, hfront, hmem⟩
    exact ⟨front, back ++ after, by rw [List.append_assoc, List.cons_append], hfront, hmem⟩

/-- Blanks at the end of a text do not change for which other character it is refused. -/
theorem stopsAt_trim_iff (hc : ¬ Text.isBlank c) (hhead : ∀ x ∈ l.head?, ¬ Text.isBlank x) :
    StopsAt (dropSize (dropFamily (Text.trim l))) c ↔ StopsAt (dropSize (dropFamily l)) c := by
  obtain ⟨after, hl, hafter⟩ := Text.exists_trim_append hhead
  nth_rewrite 2 [hl]
  have hfamily : ∀ x ∈ ['R', 'V'], ¬ Text.isBlank x := not_isBlank_of_mem_marks (by simp [marks])
  have hsize : ∀ x ∈ ['3', '2'], ¬ Text.isBlank x := not_isBlank_of_mem_marks (by simp [marks])
  rw [Text.drop_append_blanks follows_family_iff hfamily hafter,
    Text.drop_append_blanks follows_size_iff hsize hafter,
    stopsAt_append_blanks hc hafter]

theorem not_isBlank_head_plain (h : StopsAt (letters s) c) (hc : ¬ Text.isBlank c) :
    ∀ x ∈ (plain s).head?, ¬ Text.isBlank x := by
  obtain ⟨mark, hmark, hplain⟩ := exists_mark_plain s
  intro x hx
  rw [hplain] at hx
  cases mark with
  | nil =>
    rcases h.filter.head x hx with hletter | rfl
    · exact (nameLetters_plain hletter).1
    · exact hc
  | cons y mark =>
    obtain rfl := Option.some.inj hx
    exact not_isBlank_of_mem_marks hmark y List.mem_cons_self

/-- If underscores hide the family, the name is refused for its first character. -/
theorem eq_of_hides_family (h : StopsAt (letters s) c) (hidden : Text.Hides ['R', 'V'] (inner s)) :
    c = 'R' := by
  obtain ⟨⟨rest, hrest⟩, hnone⟩ := hidden
  have hfamily := ((family_cases (inner s)).resolve_left fun h' => hnone ⟨_, h'.symm⟩).2
  have hhead := h.filter.head 'R'
  rw [letters_eq, hfamily] at hhead
  rcases size_cases (inner s) with hsize | ⟨-, hsize⟩
  · rw [hsize] at hrest
    cases hrest
  · rw [hsize, ← hrest] at hhead
    exact ((hhead rfl).resolve_left (by decide)).symm

/-- If underscores hide the size, the name is refused for its first character. -/
theorem eq_of_hides_size (h : StopsAt (letters s) c)
    (hidden : Text.Hides ['3', '2'] (dropFamily (inner s))) : c = '3' := by
  obtain ⟨⟨rest, hrest⟩, hnone⟩ := hidden
  have hsize := ((size_cases (dropFamily (inner s))).resolve_left fun h' => hnone ⟨_, h'.symm⟩).2
  have hhead := h.filter.head '3'
  rw [letters_eq, hsize, ← hrest] at hhead
  exact ((hhead rfl).resolve_left (by decide)).symm

/-! ## Names that are refused again -/

/-- The characters are one of the marks, then letters, then `c` and whatever follows. -/
def Meets (marks : List (List Char)) (c : Char) (cs : List Char) : Prop :=
  ∃ mark ∈ marks, ∃ front back, cs = mark ++ front ++ c :: back ∧ ∀ x ∈ front, x ∈ nameLetters

/-- Without its underscores a name comes to `c` once more: behind a family that they hide, behind a
size that they hide, and if `c` is blank, not at an end. -/
structure Recurs (s : String) (c : Char) : Prop where
  behind_family : Text.Hides ['R', 'V'] (inner s) →
    Meets [['R', 'V'], ['R', 'V', '3', '2']] c (plain s)
  behind_size : Text.Hides ['3', '2'] (dropFamily (inner s)) →
    Meets [['3', '2'], ['R', 'V', '3', '2']] c (plain s)
  between_blanks : Text.isBlank c → Meets marks c (Text.trim (plain s))

/-- Marks that are dropped in front of letters and `c` can be read off the characters. -/
theorem stopsAt_iff_meets {ms : List (List Char)} (hc : c ∉ nameLetters)
    (hmark : ∃ mark ∈ ms, l = mark ++ dropSize (dropFamily l))
    (hdrop : ∀ mark ∈ ms, ∀ rest, StopsAt rest c → dropSize (dropFamily (mark ++ rest)) = rest) :
    StopsAt (dropSize (dropFamily l)) c ↔ Meets ms c l := by
  constructor
  · rintro ⟨front, back, hrest, hfront, -⟩
    obtain ⟨mark, hmem, hl⟩ := hmark
    exact ⟨mark, hmem, front, back, by rw [List.append_assoc, ← hrest, ← hl], hfront⟩
  · rintro ⟨mark, hmem, front, back, rfl, hfront⟩
    have hstop : StopsAt (front ++ c :: back) c := ⟨front, back, rfl, hfront, hc⟩
    rw [List.append_assoc, hdrop mark hmem _ hstop]
    exact hstop

theorem stopsAt_iff_meets_of_family (h : ['R', 'V'] <+: l) :
    StopsAt (dropSize (dropFamily l)) 'R' ↔ Meets [['R', 'V'], ['R', 'V', '3', '2']] 'R' l := by
  refine stopsAt_iff_meets (by decide) (exists_mark_of_family h) fun mark hmark rest hrest => ?_
  -- what stops at `R` does not begin with the size
  have hsize : dropSize rest = rest := by
    refine dropSize_of_head fun x hx => ?_
    rcases hrest.head x hx with hletter | rfl
    · exact (nameLetters_plain hletter).2.2
    · decide
  simp only [List.mem_cons, List.not_mem_nil, or_false] at hmark
  rcases hmark with rfl | rfl
  · exact hsize
  · rfl

theorem stopsAt_iff_meets_of_size (h : ['3', '2'] <+: dropFamily l) :
    StopsAt (dropSize (dropFamily l)) '3' ↔ Meets [['3', '2'], ['R', 'V', '3', '2']] '3' l := by
  refine stopsAt_iff_meets (by decide) (exists_mark_of_size h) fun mark hmark rest _ => ?_
  simp only [List.mem_cons, List.not_mem_nil, or_false] at hmark
  rcases hmark with rfl | rfl <;> rfl

theorem stopsAt_iff_meets_of_ne (hc : c ∉ nameLetters) (hfamily : c ≠ 'R') (hsize : c ≠ '3') :
    StopsAt (dropSize (dropFamily l)) c ↔ Meets marks c l := by
  refine stopsAt_iff_meets hc (exists_mark l) fun mark hmark rest hrest => ?_
  refine drop_mark hmark fun x hx => ?_
  rcases hrest.head x hx with hletter | rfl
  · exact (nameLetters_plain hletter).2
  · exact ⟨hfamily, hsize⟩

/-- A name that is refused for `c` is refused for `c` without its underscores if and only if it comes
to `c` once more. -/
theorem stopsAt_erase_iff (h : StopsAt (letters s) c) :
    StopsAt (letters (Text.eraseUnderscores s)) c ↔ Recurs s c := by
  have hfamily := eq_of_hides_family h
  have hsize := eq_of_hides_size h
  rw [letters_eq, inner_erase]
  by_cases hblank : Text.isBlank c
  · -- nothing is hidden that a blank could begin
    have hR : c ≠ 'R' := by
      rintro rfl
      exact absurd hblank (by decide)
    have h3 : c ≠ '3' := by
      rintro rfl
      exact absurd hblank (by decide)
    obtain ⟨-, -, -, -, hc⟩ := h
    rw [stopsAt_iff_meets_of_ne hc hR h3]
    exact ⟨fun hmeets => ⟨fun hf => absurd (hfamily hf) hR, fun hs => absurd (hsize hs) h3,
      fun _ => hmeets⟩, fun hrecurs => hrecurs.between_blanks hblank⟩
  have hblank' : Text.isBlank c → Meets marks c (Text.trim (plain s)) := fun hb => absurd hb hblank
  rw [stopsAt_trim_iff hblank (not_isBlank_head_plain h hblank)]
  by_cases hf : Text.Hides ['R', 'V'] (inner s)
  · obtain rfl := hfamily hf
    have hfound : ['R', 'V'] <+: plain s := hf.1
    rw [stopsAt_iff_meets_of_family hfound]
    exact ⟨fun hmeets => ⟨fun _ => hmeets, fun hs => absurd (hsize hs) (by decide), hblank'⟩,
      fun hrecurs => hrecurs.behind_family hf⟩
  by_cases hs : Text.Hides ['3', '2'] (dropFamily (inner s))
  · obtain rfl := hsize hs
    have hfound : ['3', '2'] <+: dropFamily (plain s) := by
      rw [plain, Text.drop_filter follows_family_iff rfl hf]
      exact hs.1
    rw [stopsAt_iff_meets_of_size hfound]
    exact ⟨fun hmeets => ⟨fun hf' => absurd hf' hf, fun _ => hmeets, hblank'⟩,
      fun hrecurs => hrecurs.behind_size hs⟩
  · rw [drop_plain hf hs]
    exact iff_of_true h.filter ⟨fun hf' => absurd hf' hf, fun hs' => absurd hs' hs, hblank'⟩

/-- A character that can neither begin family or size nor be blank is met again in any case. -/
theorem recurs_of_ne (h : StopsAt (letters s) c) (hfamily : c ≠ 'R') (hsize : c ≠ '3')
    (hblank : ¬ Text.isBlank c) : Recurs s c :=
  ⟨fun hf => absurd (eq_of_hides_family h hf) hfamily,
    fun hs => absurd (eq_of_hides_size h hs) hsize, fun hb => absurd hb hblank⟩

/-! ## Names that keep their letters -/

/-- The underscores of the name stand neither in front of family or size nor within them, and none
stands between a blank and an end of the name. -/
structure Separates (s : String) : Prop where
  not_family : ¬ Text.Hides ['R', 'V'] (inner s)
  not_size : ¬ Text.Hides ['3', '2'] (dropFamily (inner s))
  trim_eq : Text.trim (plain s) = plain s

theorem letters_of_separates (h : Separates s) :
    letters (Text.eraseUnderscores s) = (letters s).filter (· != '_') := by
  rw [letters_eq, inner_erase, h.trim_eq, drop_plain h.not_family h.not_size]

theorem separates_of_forall (h : ∀ c ∈ letters s, c ∈ nameLetters) : Separates s := by
  have hplain := fun c hc => nameLetters_plain (h c hc)
  obtain ⟨mark, hmark, hinner⟩ := exists_mark (inner s)
  rw [← letters_eq] at hinner
  refine ⟨fun hidden => ?_, fun hidden => ?_, ?_⟩
  · have hmem : 'R' ∈ mark ++ letters s := hinner ▸ hidden.mem
    rcases List.mem_append.1 hmem with hmem | hmem
    · -- the family is the only place of `R` in front of the letters
      have hfamily : ['R', 'V'] <+: mark := family_of_mem_mark hmark hmem
      exact hidden.2 (hinner ▸ hfamily.trans (List.prefix_append _ _))
    · exact (hplain 'R' hmem).2.1 rfl
  · rcases size_cases (dropFamily (inner s)) with hsize | ⟨-, hsize⟩
    · exact hidden.2 ⟨_, hsize.symm⟩
    · rw [← letters_eq] at hsize
      exact (hplain '3' (hsize ▸ hidden.mem)).2.2 rfl
  · have hblank : ∀ c ∈ plain s, ¬ Text.isBlank c := by
      intro c hc
      have hmem : c ∈ mark ++ letters s := hinner ▸ List.mem_of_mem_filter hc
      rcases List.mem_append.1 hmem with hmem | hmem
      · exact not_isBlank_of_mem_marks hmark c hmem
      · exact (hplain c hmem).1
    have htrim := Text.trim_frame (List.forall_mem_nil _) (List.forall_mem_nil _) hblank
    rwa [List.nil_append, List.append_nil] at htrim

theorem parse_of_separates (h : Separates s) : parse (Text.eraseUnderscores s) = parse s := by
  apply parse_congr
  rw [letters_of_separates h, List.filter_filter]
  simp only [Bool.and_self]

/-! ## Results -/

/-- A name whose underscores only separate letters is read as it is without them, and any name that is
read, or refused as empty, is such a name. A name whose underscores hide something is read the same
only if it is refused, and for a character that it comes to once more without them; it does for any
character that can neither begin family or size nor be blank. -/
theorem parse_without_underscores (s : String) :
    (parse (Text.eraseUnderscores s) = parse s ↔ Separates s ∨
      ∃ c, parse s = .error (.unknownExtension c) ∧ Recurs s c) ∧
    (∀ S, parse s = .ok S → Separates s) ∧
    (parse s = .error .empty → Separates s) ∧
    ∀ c, parse s = .error (.unknownExtension c) → c ≠ 'R' → c ≠ '3' → ¬ Text.isBlank c →
      parse (Text.eraseUnderscores s) = .error (.unknownExtension c) := by
  refine ⟨⟨fun hsame => ?_, ?_⟩, fun S hS => ?_, fun hempty => ?_,
    fun c hc hfamily hsize hblank => ?_⟩
  · refine (forall_mem_or_stopsAt (letters s)).imp separates_of_forall ?_
    rintro ⟨c, hc⟩
    have hs := parse_of_stopsAt hc
    exact ⟨c, hs, (stopsAt_erase_iff hc).1 (parse_eq_unknown_iff.1 (hsame.trans hs))⟩
  · rintro (h | ⟨c, hs, hrecurs⟩)
    · exact parse_of_separates h
    · rw [hs, parse_of_stopsAt ((stopsAt_erase_iff (parse_eq_unknown_iff.1 hs)).2 hrecurs)]
  · exact separates_of_forall (parse_eq_ok_iff.1 hS).2.1
  · refine separates_of_forall fun c hc => ?_
    rw [parse_eq_empty_iff.1 hempty c hc]
    decide
  · have hstop := parse_eq_unknown_iff.1 hc
    exact parse_of_stopsAt ((stopsAt_erase_iff hstop).2 (recurs_of_ne hstop hfamily hsize hblank))

/-- Underscores among the letters, alone behind the size, in front of a letter of no extension, and
within a family that has `R` behind it as well. -/
theorem parse_separated_names :
    parse (Text.eraseUnderscores "rv32_i_m__c") = .ok rv32imc ∧
    parse (Text.eraseUnderscores "RV32__") = .error .empty ∧
    parse (Text.eraseUnderscores "RV_I_A") = .error (.unknownExtension 'A') ∧
    parse (Text.eraseUnderscores "R_V32IR") = .error (.unknownExtension 'R') := by
  have hletters : (letters "rv32_i_m__c").filter (· != '_') =
      [Extension.integer, .multiply, .compressed].map Extension.letter := by decide
  have hname : parse "rv32_i_m__c" = .ok rv32imc := parse_of_map_letter hletters
  have hnone : parse "RV32__" = .error .empty := rfl
  have htwice : parse "R_V32IR" = .error (.unknownExtension 'R') := rfl
  have hrecurs : Recurs "R_V32IR" 'R' := by
    refine ⟨fun _ => ⟨['R', 'V', '3', '2'], by decide, ['I'], [], rfl, ?_⟩, ?_, ?_⟩
    · simp [nameLetters]
    · exact fun hidden => absurd hidden.1 (by decide)
    · exact fun hblank => absurd hblank (by decide)
  obtain ⟨hsame, hread, -, -⟩ := parse_without_underscores "rv32_i_m__c"
  obtain ⟨hsame', -, hempty, -⟩ := parse_without_underscores "RV32__"
  obtain ⟨-, -, -, hrefused⟩ := parse_without_underscores "RV_I_A"
  obtain ⟨hsame'', -, -, -⟩ := parse_without_underscores "R_V32IR"
  refine ⟨?_, ?_, hrefused 'A' rfl (by decide) (by decide) (by decide), ?_⟩
  · rw [hsame.2 (.inl (hread _ hname)), hname]
  · rw [hsame'.2 (.inl (hempty hnone)), hnone]
  · rw [hsame''.2 (.inr ⟨'R', htwice, hrecurs⟩), htwice]

/-- An underscore between family and size hides the size. -/
theorem parse_underscore_before_size :
    ¬ ∀ s : String, parse (Text.eraseUnderscores s) = parse s := by
  intro h
  have hrefused : parse "RV_32I" = .error (.unknownExtension '3') := rfl
  have hread : parse (Text.eraseUnderscores "RV_32I") = .ok rv32i := rfl
  rw [h, hrefused] at hread
  cases hread

end Isa

end Rv32
