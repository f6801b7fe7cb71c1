import Mathlib
import Rv32.Isa
import Rv32.Proofs.Trimming

/-!
# The names of instruction sets

A name is read letter by letter. What is in front of the letters may be left out, and their case,
order and number do not count.

* `Isa.IsLetters s r` : the letters of the name `s` are `r`; `Isa.isLetters_iff` : these are read;
* `Isa.StopsAt l c` : the first character of `l` that no name has is `c`;
* `Isa.parse_cases` : the three ways in which reading ends; `Isa.parse_eq_empty_iff`,
  `Isa.parse_eq_unknown_iff` and `Isa.parse_eq_ok_iff` tell which letters lead there;
* `Isa.parse_of_same_letters` : order and number of the letters do not count;
* `Isa.parse_text` : the written name of a set is read as the set;
* `Isa.parse_exact` : all of this together.
-/

namespace Rv32

namespace Text

theorem isBlank_toUpper (c : Char) : isBlank c.toUpper = isBlank c := by
  revert c
  apply forall_char
  · decide +kernel
  · intro c hc
    rw [toUpper_of_le hc]

end Text

namespace Extension

variable {c : Char} {e e' : Extension}

theorem ofLetter?_eq_some_iff : ofLetter? c = some e ↔ c = e.letter := by
  constructor
  · intro h
    unfold ofLetter? at h
    split at h <;> cases h <;> rfl
  · rintro rfl
    exact ofLetter?_letter e

theorem letter_injective : Function.Injective letter := by
  intro e e' h
  have := ofLetter?_letter e'
  rw [← h, ofLetter?_letter] at this
  exact Option.some.inj this

end Extension

namespace Isa

variable {s t : String} {S : Isa} {c : Char} {l : List Char} {es : List Extension}

theorem eq_of_supports {S T : Isa} (h : ∀ e, S.supports e ↔ T.supports e) : S = T := by
  have hinteger : S.integer = T.integer := Bool.eq_iff_iff.2 (h .integer)
  have hmultiply : S.multiply = T.multiply := Bool.eq_iff_iff.2 (h .multiply)
  have hvector : S.vector = T.vector := Bool.eq_iff_iff.2 (h .vector)
  have hcompressed : S.compressed = T.compressed := Bool.eq_iff_iff.2 (h .compressed)
  cases S
  cases T
  simp_all

/-! ## Letters -/

/-- The characters that may stand in a name behind family and size. -/
def nameLetters : List Char := ['I', 'M', 'V', 'C', '_']

theorem mem_nameLetters_iff : c ∈ nameLetters ↔ c = '_' ∨ ∃ e : Extension, c = e.letter := by
  constructor
  · intro h
    simp only [nameLetters, List.mem_cons, List.not_mem_nil, or_false] at h
    rcases h with rfl | rfl | rfl | rfl | rfl
    · exact .inr ⟨.integer, rfl⟩
    · exact .inr ⟨.multiply, rfl⟩
    · exact .inr ⟨.vector, rfl⟩
    · exact .inr ⟨.compressed, rfl⟩
    · exact .inl rfl
  · rintro (rfl | ⟨e, rfl⟩)
    · decide
    · cases e <;> decide

theorem letter_ne_underscore (e : Extension) : e.letter ≠ '_' := by cases e <;> decide

theorem exists_map_letter (h : ∀ c ∈ l, c ∈ nameLetters) :
    ∃ es : List Extension, l.filter (· != '_') = es.map Extension.letter := by
  induction l with
  | nil => exact ⟨[], rfl⟩
  | cons c l ih =>
    obtain ⟨hc, hl⟩ := List.forall_mem_cons.1 h
    obtain ⟨es, hes⟩ := ih hl
    rcases mem_nameLetters_iff.1 hc with rfl | ⟨e, rfl⟩
    · exact ⟨es, hes⟩
    · refine ⟨e :: es, ?_⟩
      have hkept : (e.letter != '_') = true := bne_iff_ne.2 (letter_ne_underscore e)
      simp only [List.filter_cons, hkept, if_true, hes, List.map_cons]

theorem mem_of_map_letter (h : l.filter (· != '_') = es.map Extension.letter) (e : Extension) :
    e ∈ es ↔ e.letter ∈ l := by
  rw [← List.mem_map_of_injective Extension.letter_injective, ← h, List.mem_filter,
    and_iff_left (bne_iff_ne.2 (letter_ne_underscore e))]

/-- The characters of `l` are those of a name up to `c`, which is not. -/
def StopsAt (l : List Char) (c : Char) : Prop :=
  ∃ front back, l = front ++ c :: back ∧ (∀ x ∈ front, x ∈ nameLetters) ∧ c ∉ nameLetters

theorem forall_mem_or_stopsAt (l : List Char) :
    (∀ c ∈ l, c ∈ nameLetters) ∨ ∃ c, StopsAt l c := by
  cases hfind : l.find? (fun c => c ∉ nameLetters) with
  | none =>
    refine .inl fun c hc => ?_
    simpa using List.find?_eq_none.1 hfind c hc
  | some c =>
    obtain ⟨hc, front, back, hl, hfront⟩ := List.find?_eq_some_iff_append.1 hfind
    exact .inr ⟨c, front, back, hl, fun x hx => by simpa using hfront x hx, by simpa using hc⟩

theorem StopsAt.not_forall (h : StopsAt l c) : ¬ ∀ x ∈ l, x ∈ nameLetters := by
  obtain ⟨front, back, rfl, -, hc⟩ := h
  exact fun hall => hc (hall c (by simp))

/-! ## Reading letters -/

theorem extensionOf_letter (e : Extension) : extensionOf e.letter = .ok e := by
  rw [extensionOf, Extension.ofLetter?_letter]

theorem extensionOf_unknown (h : c ∉ nameLetters) :
    extensionOf c = .error (.unknownExtension c) := by
  have hnone : Extension.ofLetter? c = none := by
    rw [Option.eq_none_iff_forall_ne_some]
    intro e he
    exact h (mem_nameLetters_iff.2 (.inr ⟨e, Extension.ofLetter?_eq_some_iff.1 he⟩))
  rw [extensionOf, hnone]

theorem mapM_extensionOf (es : List Extension) :
    (es.map Extension.letter).mapM extensionOf = .ok es := by
  induction es with
  | nil => rfl
  | cons e es ih =>
    rw [List.map_cons, List.mapM_cons, extensionOf_letter, ih]
    rfl

theorem mapM_extensionOf_unknown (es : List Extension) (h : c ∉ nameLetters) (back : List Char) :
    (es.map Extension.letter ++ c :: back).mapM extensionOf = .error (.unknownExtension c) := by
  induction es with
  | nil =>
    rw [List.map_nil, List.nil_append, List.mapM_cons, extensionOf_unknown h]
    rfl
  | cons e es ih =>
    rw [List.map_cons, List.cons_append, List.mapM_cons, extensionOf_letter, ih]
    rfl

theorem parse_of_map_letter (h : (letters s).filter (· != '_') = es.map Extension.letter) :
    parse s = if es.isEmpty then .error .empty else .ok (ofExtensions es) := by
  rw [parse, h, mapM_extensionOf]
  rfl

theorem parse_of_stopsAt (h : StopsAt (letters s) c) : parse s = .error (.unknownExtension c) := by
  obtain ⟨front, back, hl, hfront, hc⟩ := h
  obtain ⟨es, hes⟩ := exists_map_letter hfront
  have hkept : (c != '_') = true := bne_iff_ne.2 fun hc' => hc (hc' ▸ by decide)
  have hfilter : (letters s).filter (· != '_') =
      es.map Extension.letter ++ c :: back.filter (· != '_') := by
    simp only [hl, List.filter_append, hes, List.filter_cons, hkept, if_true]
  rw [parse, hfilter, mapM_extensionOf_unknown es hc]
  rfl

/-- The set of the extensions whose letters are in `l`. -/
def ofLetters (l : List Char) : Isa :=
  ofExtensions (Extension.all.filter fun e => l.contains e.letter)

theorem supports_ofLetters (l : List Char) (e : Extension) :
    (ofLetters l).supports e ↔ e.letter ∈ l := by
  rw [ofLetters, supports_ofExtensions, List.mem_filter, and_iff_right (Extension.mem_all e),
    List.contains_iff_mem]

/-- The three ways in which reading a name ends. -/
theorem parse_cases (s : String) :
    ((∀ c ∈ letters s, c = '_') ∧ parse s = .error .empty) ∨
    (∃ c, StopsAt (letters s) c ∧ parse s = .error (.unknownExtension c)) ∨
    ((∃ c ∈ letters s, c ≠ '_') ∧ (∀ c ∈ letters s, c ∈ nameLetters) ∧
      parse s = .ok (ofLetters (letters s))) := by
  rcases forall_mem_or_stopsAt (letters s) with hall | ⟨c, hc⟩
  · -- every character counts as a letter or an underscore, and the letters may be none
    obtain ⟨es, hes⟩ := exists_map_letter hall
    have hparse := parse_of_map_letter hes
    cases es with
    | nil =>
      refine .inl ⟨fun c hc => ?_, hparse⟩
      simpa using List.filter_eq_nil_iff.1 hes c hc
    | cons e es =>
      have he := (mem_of_map_letter hes e).1 List.mem_cons_self
      refine .inr (.inr ⟨⟨e.letter, he, letter_ne_underscore e⟩, hall, hparse.trans ?_⟩)
      refine congrArg Except.ok (eq_of_supports fun e' => ?_)
      rw [supports_ofExtensions, supports_ofLetters, mem_of_map_letter hes]
  · exact .inr (.inl ⟨c, hc, parse_of_stopsAt hc⟩)

theorem parse_eq_empty_iff : parse s = .error .empty ↔ ∀ c ∈ letters s, c = '_' := by
  rcases parse_cases s with ⟨hempty, h⟩ | ⟨c, hc, h⟩ | ⟨⟨c, hc, hne⟩, -, h⟩
  · exact iff_of_true h hempty
  · refine iff_of_false (by simp [h]) fun hall => hc.not_forall fun x hx => ?_
    rw [hall x hx]
    decide
  · exact iff_of_false (by simp [h]) fun hall => hne (hall c hc)

theorem parse_eq_unknown_iff :
    parse s = .error (.unknownExtension c) ↔ StopsAt (letters s) c := by
  refine ⟨fun hparse => ?_, parse_of_stopsAt⟩
  rcases parse_cases s with ⟨-, h⟩ | ⟨c', hc, h⟩ | ⟨-, -, h⟩
  · rw [h] at hparse
    cases hparse
  · rw [h] at hparse
    cases hparse
    exact hc
  · rw [h] at hparse
    cases hparse

theorem parse_eq_ok_iff : parse s = .ok S ↔ (∃ c ∈ letters s, c ≠ '_') ∧
    (∀ c ∈ letters s, c ∈ nameLetters) ∧ S = ofLetters (letters s) := by
  rcases parse_cases s with ⟨hempty, h⟩ | ⟨c, hc, h⟩ | ⟨hsome, hall, h⟩
  · refine iff_of_false (by simp [h]) ?_
    rintro ⟨⟨c, hc, hne⟩, -⟩
    exact hne (hempty c hc)
  · exact iff_of_false (by simp [h]) fun hok => hc.not_forall hok.2.1
  · rw [h, Except.ok.injEq, eq_comm, and_iff_right hsome, and_iff_right hall]

/-! ## In front of the letters -/

/-- The letters of the name: its characters in upper case between the blanks at either end, behind
`RV` if they begin with it and then behind `32` if they begin with that. -/
def IsLetters (s : String) (r : List Char) : Prop :=
  ∃ inner rest, Text.Trims s.toList inner ∧
    Text.Follows [['R', 'V']] (inner.map Char.toUpper) rest ∧ Text.Follows [['3', '2']] rest r

theorem follows_family_iff {r : List Char} :
    Text.Follows [['R', 'V']] l r ↔ r = dropFamily l := by
  refine Text.follows_iff (by simp [dropFamily]) fun cs h => ?_
  unfold dropFamily
  split
  · exact absurd ⟨_, rfl⟩ (h _ List.mem_cons_self)
  · rfl

theorem follows_size_iff {r : List Char} : Text.Follows [['3', '2']] l r ↔ r = dropSize l := by
  refine Text.follows_iff (by simp [dropSize]) fun cs h => ?_
  unfold dropSize
  split
  · exact absurd ⟨_, rfl⟩ (h _ List.mem_cons_self)
  · rfl

theorem isLetters_iff {r : List Char} : IsLetters s r ↔ r = letters s := by
  simp [IsLetters, Text.trims_iff, follows_family_iff, follows_size_iff, letters]

theorem letters_congr (h : t.toList.map Char.toUpper = s.toList.map Char.toUpper) :
    letters t = letters s := by
  rw [letters, ← Text.trim_map Text.isBlank_toUpper, h, Text.trim_map Text.isBlank_toUpper, letters]

theorem parse_congr (h : (letters t).filter (· != '_') = (letters s).filter (· != '_')) :
    parse t = parse s := by
  rw [parse, h, parse]

/-- Names with the same letters, in whatever order and number, are names of one set. -/
theorem parse_of_same_letters (hs : parse s = .ok S)
    (h : ∀ c, c ≠ '_' → (c ∈ letters t ↔ c ∈ letters s)) : parse t = .ok S := by
  obtain ⟨⟨c, hc, hne⟩, hall, rfl⟩ := parse_eq_ok_iff.1 hs
  refine parse_eq_ok_iff.2 ⟨⟨c, (h c hne).2 hc, hne⟩, fun x hx => ?_, ?_⟩
  · by_cases hx' : x = '_'
    · rw [hx']
      decide
    · exact hall x ((h x hx').1 hx)
  · refine eq_of_supports fun e => ?_
    rw [supports_ofLetters, supports_ofLetters, h _ (letter_ne_underscore e)]

/-! ## Written names -/

theorem letters_text (S : Isa) : letters S.text = S.extensions.map Extension.letter := by
  have hplain : ∀ c ∈ ['R', 'V', '3', '2'] ++ S.extensions.map Extension.letter,
      ¬ Text.isBlank c ∧ c.toUpper = c := by
    intro c hc
    rcases List.mem_append.1 hc with hc | hc
    · simp only [List.mem_cons, List.not_mem_nil, or_false] at hc
      rcases hc with rfl | rfl | rfl | rfl <;> decide
    · obtain ⟨e, -, rfl⟩ := List.mem_map.1 hc
      cases e <;> decide
  have htrim : Text.trim S.text.toList =
      ['R', 'V', '3', '2'] ++ S.extensions.map Extension.letter := by
    have hframe := Text.trim_frame (List.forall_mem_nil _) (List.forall_mem_nil _)
      fun c hc => (hplain c hc).1
    rw [text, String.toList_ofList]
    rwa [List.nil_append, List.append_nil] at hframe
  have hupper := List.map_congr_left fun c hc => (hplain c hc).2
  rw [letters, htrim, hupper, List.map_id']
  rfl

theorem parse_text (h : ¬ S.isEmpty) : parse S.text = .ok S := by
  have hletters : (letters S.text).filter (· != '_') = S.extensions.map Extension.letter := by
    rw [letters_text, List.filter_eq_self]
    intro c hc
    obtain ⟨e, -, rfl⟩ := List.mem_map.1 hc
    exact bne_iff_ne.2 (letter_ne_underscore e)
  rw [isEmpty] at h
  rw [parse_of_map_letter hletters, if_neg h]
  refine congrArg Except.ok (eq_of_supports fun e => ?_)
  rw [supports_ofExtensions, mem_extensions]

theorem not_isEmpty_of_parse (h : parse s = .ok S) : ¬ S.isEmpty := by
  obtain ⟨⟨c, hc, hne⟩, hall, rfl⟩ := parse_eq_ok_iff.1 h
  obtain rfl | ⟨e, rfl⟩ := mem_nameLetters_iff.1 (hall c hc)
  · exact absurd rfl hne
  · have he : e ∈ (ofLetters (letters s)).extensions :=
      mem_extensions.2 ((supports_ofLetters _ e).2 hc)
    rw [isEmpty, List.isEmpty_iff]
    exact List.ne_nil_of_mem he

/-- A name without letters is refused as empty, and one with a character that is no letter of an
extension for the first such character. Any other name is read as the set of the extensions whose
letters it has, so that case, order and number of the letters and underscores among them do not
count. The name that is written for a set is read as the set, and sets that were read have one. -/
theorem parse_exact (s : String) :
    (∀ r, IsLetters s r ↔ r = letters s) ∧
    (parse s = .error .empty ↔ ∀ c ∈ letters s, c = '_') ∧
    (∀ c, parse s = .error (.unknownExtension c) ↔ ∃ front back, letters s = front ++ c :: back ∧
      (∀ x ∈ front, x ∈ ['I', 'M', 'V', 'C', '_']) ∧ c ∉ ['I', 'M', 'V', 'C', '_']) ∧
    ((∃ S, parse s = .ok S) ↔
      (∃ c ∈ letters s, c ≠ '_') ∧ ∀ c ∈ letters s, c ∈ ['I', 'M', 'V', 'C', '_']) ∧
    (∀ S, parse s = .ok S → ∀ e, S.supports e ↔ e.letter ∈ letters s) ∧
    (∀ t, t.toList.map Char.toUpper = s.toList.map Char.toUpper → parse t = parse s) ∧
    (∀ t, (letters t).filter (· != '_') = (letters s).filter (· != '_') → parse t = parse s) ∧
    (∀ t S, parse s = .ok S → (∀ c, c ≠ '_' → (c ∈ letters t ↔ c ∈ letters s)) →
      parse t = .ok S) ∧
    (∀ S, parse s = .ok S → parse S.text = .ok S) ∧
    (∀ S : Isa, ¬ S.isEmpty → parse S.text = .ok S) := by
  refine ⟨fun r => isLetters_iff, parse_eq_empty_iff, fun c => parse_eq_unknown_iff, ?_, ?_,
    fun t ht => ?_, fun t => parse_congr, fun t S => parse_of_same_letters,
    fun S hS => parse_text (not_isEmpty_of_parse hS), fun S => parse_text⟩
  · simp only [parse_eq_ok_iff, exists_and_left, exists_eq, and_true]
    rfl
  · intro S hS e
    obtain ⟨-, -, rfl⟩ := parse_eq_ok_iff.1 hS
    exact supports_ofLetters _ e
  · exact parse_congr (by rw [letters_congr ht])

/-- The written name of a set, and one between blanks in lower case, with its letters out of order,
twice and apart; a letter of no extension behind valid ones; and a name of nothing but underscores
behind the size. -/
theorem parse_loose_name :
    parse "RV32IMC" = .ok rv32imc ∧ parse " rv32c_m_ici\t" = .ok rv32imc ∧
    parse "RV32IMAC" = .error (.unknownExtension 'A') ∧ parse "32__" = .error .empty := by
  have hname : letters "RV32IMC" = ['I', 'M', 'C'] := by decide
  have hloose : letters " rv32c_m_ici\t" = ['C', '_', 'M', '_', 'I', 'C', 'I'] := by decide
  have hunknown : letters "RV32IMAC" = ['I', 'M', 'A', 'C'] := by decide
  have hempty : letters "32__" = ['_', '_'] := by decide
  obtain ⟨-, -, -, -, -, -, -, hsame, -, htext⟩ := parse_exact "RV32IMC"
  have hparse : parse "RV32IMC" = .ok rv32imc := htext rv32imc (by decide)
  refine ⟨hparse, hsame _ _ hparse fun c hc => ?_, ?_, ?_⟩
  · rw [hname, hloose]
    simp only [List.mem_cons, List.not_mem_nil, or_false]
    tauto
  · exact ((parse_exact "RV32IMAC").2.2.1 'A').2 ⟨['I', 'M'], ['C'], hunknown, by simp, by simp⟩
  · exact (parse_exact "32__").2.1.2 (by simp [hempty])

end Isa

end Rv32
