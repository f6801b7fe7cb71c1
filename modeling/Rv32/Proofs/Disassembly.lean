import Rv32.Proofs.Assembly

/-!
# Reading instructions off their text

* `Text.IsArgument`, `Text.intercalate_injOn` : operands are texts without commas, so that they can
  be read off a list of them;
* `Register.name_injective` : no two registers show the same name;
* `Instruction.text_inj` : the text of an instruction gives its mnemonic and what stands after it;
* `Instruction.tail_inj` : what stands after the mnemonic gives the operands, if their numbers are
  known;
* `Isa.text_lossless` : decoded instructions of one text are equal, up to bits that their operation
  ignores.
-/

namespace Rv32

namespace Text

/-! ## Arguments -/

def isArgumentChar (c : Char) : Bool := c.isAlphanum || c == '-' || c == '.'

/-- Texts of operands are not empty and have no punctuation of the lists they stand in. -/
def IsArgument (s : String) : Prop := s.toList ≠ [] ∧ s.toList.all isArgumentChar

instance (s : String) : Decidable (IsArgument s) := inferInstanceAs (Decidable (_ ∧ _))

theorem all_toDigits (n : Nat) : (Nat.toDigits 10 n).all isArgumentChar := by
  refine List.all_eq_true.2 fun c hc => ?_
  have hd : c.isDigit := Nat.isDigit_of_mem_toDigits (by decide) (by decide) hc
  simp [isArgumentChar, Char.isAlphanum, hd]

theorem IsArgument.notMem {s : String} (h : IsArgument s) {c : Char} (hc : ¬ isArgumentChar c) :
    c ∉ s.toList :=
  fun hmem => hc (List.all_eq_true.1 h.2 c hmem)

theorem isArgument_toString (n : Int) : IsArgument (toString n) := by
  rw [IsArgument]
  cases n with
  | ofNat n =>
    have htext : (toString (Int.ofNat n)).toList = Nat.toDigits 10 n := by
      change n.repr.toList = _
      rw [Nat.repr_eq_ofList_toDigits, String.toList_ofList]
    rw [htext]
    exact ⟨Nat.toDigits_ne_nil, all_toDigits n⟩
  | negSucc n =>
    have htext : (toString (Int.negSucc n)).toList = '-' :: Nat.toDigits 10 (n + 1) := by
      change ("-" ++ (n + 1).repr).toList = _
      simp
    rw [htext]
    exact ⟨List.cons_ne_nil _ _, all_toDigits (n + 1)⟩

/-! ## Lists of arguments -/

theorem splitOn_intercalate {xs : List String} (hxs : ∀ x ∈ xs, IsArgument x) (hne : xs ≠ []) :
    (",".intercalate xs).toList.splitOn ',' = xs.map String.toList := by
  rw [String.toList_intercalate]
  refine List.splitOn_intercalate ',' ?_ (by simpa using hne)
  intro l hl
  obtain ⟨x, hx, rfl⟩ := List.mem_map.1 hl
  exact (hxs x hx).notMem (by decide)

theorem intercalate_eq_empty_iff {xs : List String} (hxs : ∀ x ∈ xs, IsArgument x) :
    ",".intercalate xs = "" ↔ xs = [] := by
  refine ⟨fun h => ?_, fun h => by rw [h]; rfl⟩
  by_contra hne
  have hsplit := splitOn_intercalate hxs hne
  rw [h, String.toList_empty, List.splitOn_nil] at hsplit
  -- the text of no argument splits into one part, which is empty
  obtain ⟨x, rfl⟩ : ∃ x, xs = [x] := List.length_eq_one_iff.1 (by
    simpa using (congrArg List.length hsplit).symm)
  exact (hxs x (List.mem_singleton_self x)).1 (by simpa using hsplit.symm)

theorem intercalate_injOn {xs ys : List String} (hxs : ∀ x ∈ xs, IsArgument x)
    (hys : ∀ y ∈ ys, IsArgument y) (h : ",".intercalate xs = ",".intercalate ys) : xs = ys := by
  by_cases hne : xs = []
  · rw [hne, (intercalate_eq_empty_iff hys).1]
    rw [← h, hne]
    rfl
  · have hne' : ys ≠ [] := by
      rwa [Ne, ← intercalate_eq_empty_iff hys, ← h, intercalate_eq_empty_iff hxs]
    refine List.map_injective_iff.2 (fun _ _ => String.toList_inj.1) ?_
    rw [← splitOn_intercalate hxs hne, ← splitOn_intercalate hys hne', h]

theorem mem_intercalate {x c : Char} :
    ∀ {ls : List (List Char)}, c ∈ [x].intercalate ls → c = x ∨ ∃ l ∈ ls, c ∈ l
  | [], h => by simp at h
  | [l], h => .inr ⟨l, by simp, by simpa using h⟩
  | l :: l' :: ls, h => by
    rw [List.intercalate_cons_cons, List.mem_append, List.mem_append] at h
    obtain (h | h) | h := h
    · exact .inr ⟨l, List.mem_cons_self, h⟩
    · exact .inl (List.mem_singleton.1 h)
    · obtain h | ⟨k, hk, hc⟩ := mem_intercalate h
      · exact .inl h
      · exact .inr ⟨k, List.mem_cons_of_mem _ hk, hc⟩

theorem notMem_intercalate {xs : List String} (hxs : ∀ x ∈ xs, IsArgument x) {c : Char}
    (hc : c ≠ ',') (hc' : ¬ isArgumentChar c) : c ∉ (",".intercalate xs).toList := by
  rw [String.toList_intercalate]
  intro h
  obtain h | ⟨l, hl, hcl⟩ := mem_intercalate h
  · exact hc h
  · obtain ⟨x, hx, rfl⟩ := List.mem_map.1 hl
    exact (hxs x hx).notMem hc' hcl

end Text

/-! ## Names of registers -/

namespace Register

theorem text_injective : Function.Injective text := by
  intro r s h
  have hs := ofText?_text s
  rw [← h, ofText?_text] at hs
  exact Option.some.inj hs

theorem isArgument_text (r : Register) : Text.IsArgument r.text := by
  have hletter : Text.isArgumentChar r.file.letter := by cases r.file <;> rfl
  rw [Text.IsArgument, text, String.toList_ofList, List.all_cons, hletter, Text.all_toDigits]
  exact ⟨List.cons_ne_nil _ _, rfl⟩

theorem abiName?_eq_some_iff {r : Register} {s : String} :
    r.abiName? = some s ↔ r.file = .x ∧ abiNames[r.index]? = some s := by
  obtain ⟨file, k⟩ := r
  cases file <;> simp [abiName?]

theorem abiName?_mem {r : Register} {s : String} (h : r.abiName? = some s) : s ∈ abiNames :=
  List.mem_of_getElem? (abiName?_eq_some_iff.1 h).2

theorem eq_of_abiName? {r r' : Register} {s : String} (h : r.abiName? = some s)
    (h' : r'.abiName? = some s) : r = r' := by
  obtain ⟨hfile, hs⟩ := abiName?_eq_some_iff.1 h
  obtain ⟨hfile', hs'⟩ := abiName?_eq_some_iff.1 h'
  have hlt : r.index < abiNames.length := (List.getElem?_eq_some_iff.1 hs).1
  have hindex : r.index = r'.index :=
    (List.getElem?_inj hlt (by decide +kernel)).1 (hs.trans hs'.symm)
  cases r
  cases r'
  simp_all

theorem ofText?_of_mem_abiNames : ∀ s ∈ abiNames, ofText? s = none := by decide +kernel

/-- No name of the calling convention is the text of a register. -/
theorem text_notMem_abiNames (r : Register) : r.text ∉ abiNames := by
  intro h
  exact absurd (ofText?_of_mem_abiNames _ h) (by rw [ofText?_text]; exact Option.some_ne_none r)

theorem name_of_some {r : Register} {s : String} (h : r.abiName? = some s) : r.name = s := by
  rw [name, h, Option.getD_some]

theorem name_of_none {r : Register} (h : r.abiName? = none) : r.name = r.text := by
  rw [name, h, Option.getD_none]

theorem name_injective : Function.Injective name := by
  intro r r' h
  cases hr : r.abiName? with
  | none =>
    rw [name_of_none hr] at h
    cases hr' : r'.abiName? with
    | none => exact text_injective (h.trans (name_of_none hr'))
    | some s =>
      rw [name_of_some hr'] at h
      exact absurd (h ▸ abiName?_mem hr') r.text_notMem_abiNames
  | some s =>
    rw [name_of_some hr] at h
    cases hr' : r'.abiName? with
    | none =>
      rw [name_of_none hr'] at h
      exact absurd (h ▸ abiName?_mem hr) r'.text_notMem_abiNames
    | some s' => exact eq_of_abiName? hr (by rw [hr', h, name_of_some hr'])

theorem isArgument_name (r : Register) : Text.IsArgument r.name := by
  cases hr : r.abiName? with
  | none => exact name_of_none hr ▸ r.isArgument_text
  | some s =>
    have hs : ∀ s ∈ abiNames, Text.IsArgument s := by decide +kernel
    exact name_of_some hr ▸ hs s (abiName?_mem hr)

end Register

/-! ## Texts of mnemonics -/

/-- The characters of a text as the digits of a number, which is faster to compare. -/
def Text.code (s : String) : Nat := s.toList.foldl (fun n c => 256 * n + c.toNat) 0

namespace Mnemonic

theorem nodup_codes : (all.map fun m => Text.code m.text).Nodup := by decide +kernel

theorem text_injective : Function.Injective text := by
  intro m n h
  exact List.inj_on_of_nodup_map nodup_codes (mem_all m) (mem_all n) (by rw [h])

theorem space_notMem_text : ∀ m : Mnemonic, ' ' ∉ m.text.toList := by decide +kernel

end Mnemonic

/-! ## Texts of instructions -/

namespace Instruction

variable {i j : Instruction} {o o' : Operands} {src src' : List Register}

def arguments (o : Operands) (src : List Register) : List String :=
  o.dest.map Register.name ++ src.map Register.name ++ o.imm.map toString ++ maskText o.mask

theorem isArgument_of_mem_arguments {s : String} (h : s ∈ arguments o src) : Text.IsArgument s := by
  simp only [arguments, List.mem_append, List.mem_map] at h
  obtain ((⟨r, -, rfl⟩ | ⟨r, -, rfl⟩) | ⟨n, -, rfl⟩) | h := h
  · exact r.isArgument_name
  · exact r.isArgument_name
  · exact Text.isArgument_toString n
  · obtain rfl : s = "v0.t" := by
      unfold maskText at h
      split at h
      · exact List.mem_singleton.1 h
      · simp at h
      · simp at h
    decide +kernel

theorem map_name_inj {l l' : List Register} : l.map Register.name = l'.map Register.name ↔ l = l' :=
  (List.map_injective_iff.2 Register.name_injective).eq_iff

theorem map_toString_inj {l l' : List Int} : l.map toString = l'.map toString ↔ l = l' :=
  (List.map_injective_iff.2 fun _ _ => Int.repr_injective).eq_iff

/-- Operands with as many registers and immediates are read off their text. -/
theorem params_inj (hdest : o.dest.length = o'.dest.length) (hsrc : src.length = src'.length)
    (himm : o.imm.length = o'.imm.length) (h : params o src = params o' src') :
    o.dest = o'.dest ∧ src = src' ∧ o.imm = o'.imm ∧ maskText o.mask = maskText o'.mask := by
  have h : arguments o src = arguments o' src' :=
    Text.intercalate_injOn (fun _ => isArgument_of_mem_arguments)
      (fun _ => isArgument_of_mem_arguments) h
  obtain ⟨h, hmask⟩ := List.append_inj h (by simp [hdest, hsrc, himm])
  obtain ⟨h, himm⟩ := List.append_inj h (by simp [hdest, hsrc])
  obtain ⟨hdest, hsrc⟩ := List.append_inj h (by simp [hdest])
  exact ⟨map_name_inj.1 hdest, map_name_inj.1 hsrc, map_toString_inj.1 himm, hmask⟩

/-- What stands after the mnemonic. -/
def tail (i : Instruction) : String :=
  match i.showsBase, i.operands.src with
  | true, base :: src => params i.operands src ++ "(" ++ base.name ++ ")"
  | _, src => params i.operands src

theorem text_eq (i : Instruction) :
    i.text = if i.tail = "" then i.mnemonic.text else i.mnemonic.text ++ " " ++ i.tail := by
  rw [text, tail]
  cases i.showsBase with
  | false => simp [String.isEmpty_iff]
  | true =>
    cases i.operands.src with
    | nil => simp [String.isEmpty_iff]
    | cons base src =>
      have hne : params i.operands src ++ "(" ++ base.name ++ ")" ≠ "" := by simp
      dsimp only
      rw [if_neg hne]
      simp only [String.append_assoc]

theorem notMem_params {c : Char} (hc : c ≠ ',') (hc' : ¬ Text.isArgumentChar c) :
    c ∉ (params o src).toList :=
  Text.notMem_intercalate (fun _ => isArgument_of_mem_arguments) hc hc'

theorem space_notMem_tail (i : Instruction) : ' ' ∉ i.tail.toList := by
  have hparams : ∀ src, ' ' ∉ (params i.operands src).toList :=
    fun src => notMem_params (by decide) (by decide)
  unfold tail
  split
  · next base src _ _ =>
    have hbase : ' ' ∉ base.name.toList := base.isArgument_name.notMem (by decide)
    simp [hparams src, hbase]
  · exact hparams _

/-- The mnemonic ends at the first space. -/
theorem text_inj (h : i.text = j.text) : i.mnemonic = j.mnemonic ∧ i.tail = j.tail := by
  have hi := i.mnemonic.space_notMem_text
  have hj := j.mnemonic.space_notMem_text
  rw [text_eq, text_eq] at h
  -- one text without a tail and one with a tail would put a space into a mnemonic
  split at h <;> split at h
  · next hti htj => exact ⟨Mnemonic.text_injective h, hti.trans htj.symm⟩
  · exact absurd (by rw [h]; simp) hi
  · exact absurd (by rw [← h]; simp) hj
  · rw [← String.toList_inj] at h
    simp only [String.toList_append, List.append_assoc] at h
    obtain ⟨hm, -, htail⟩ := (List.append_cons_inj_of_notMem hi i.space_notMem_tail).1 h
    exact ⟨Mnemonic.text_injective (String.toList_inj.1 hm), String.toList_inj.1 htail⟩

theorem showsBase_congr (h : i.mnemonic = j.mnemonic) : i.showsBase = j.showsBase := by
  simp only [showsBase, isMemAccess, isLoad, isStore, h]

/-- The base of an address starts at the parenthesis. -/
theorem params_base_inj {base base' : Register}
    (h : params o src ++ "(" ++ base.name ++ ")" = params o' src' ++ "(" ++ base'.name ++ ")") :
    params o src = params o' src' ∧ base = base' := by
  have hparams : '(' ∉ (params o src).toList := notMem_params (by decide) (by decide)
  have hbase : '(' ∉ (base.name ++ ")").toList := by
    have hname : '(' ∉ base.name.toList := base.isArgument_name.notMem (by decide)
    simp [hname]
  rw [String.append_assoc, String.append_assoc, String.append_assoc, String.append_assoc,
    ← String.toList_inj] at h
  simp only [String.toList_append (s := params _ _), String.toList_append (s := "(")] at h
  obtain ⟨hp, -, hb⟩ := (List.append_cons_inj_of_notMem hparams hbase).1 h
  have hb : base.name ++ ")" = base'.name ++ ")" := String.toList_inj.1 hb
  exact ⟨String.toList_inj.1 hp, Register.name_injective ((String.append_left_inj ")").1 hb)⟩

/-- Instructions of one operation with as many operands of each kind. -/
theorem tail_inj (hm : i.mnemonic = j.mnemonic)
    (hdest : i.operands.dest.length = j.operands.dest.length)
    (hsrc : i.operands.src.length = j.operands.src.length)
    (himm : i.operands.imm.length = j.operands.imm.length) (h : i.tail = j.tail) :
    i.operands.dest = j.operands.dest ∧ i.operands.src = j.operands.src ∧
      i.operands.imm = j.operands.imm ∧ maskText i.operands.mask = maskText j.operands.mask := by
  unfold tail at h
  rw [showsBase_congr hm] at h
  cases hshow : j.showsBase with
  | false =>
    simp only [hshow] at h
    exact params_inj hdest hsrc himm h
  | true =>
    simp only [hshow] at h
    -- a base is shown if there is one, and both instructions have as many sources
    cases hi : i.operands.src with
    | nil =>
      have hj : j.operands.src = [] := List.length_eq_zero_iff.1 (by rw [← hsrc, hi]; rfl)
      simp only [hi, hj] at h
      rw [hj]
      exact params_inj hdest rfl himm h
    | cons base src =>
      obtain ⟨base', src', hj⟩ : ∃ base' src', j.operands.src = base' :: src' :=
        List.exists_cons_of_length_eq_add_one (by rw [← hsrc, hi]; rfl)
      simp only [hi, hj] at h
      obtain ⟨hparams, rfl⟩ := params_base_inj h
      have hsrc : src.length = src'.length := by simpa [hi, hj] using hsrc
      obtain ⟨hdest, rfl, himm, hmask⟩ := params_inj hdest hsrc himm hparams
      exact ⟨hdest, hj.symm, himm, hmask⟩

end Instruction

/-! ## Decoded instructions -/

theorem Masking.read_inj {k : Masking} {v w : BitVec 32}
    (h : Instruction.maskText (k.read v) = Instruction.maskText (k.read w)) :
    k.read v = k.read w := by
  cases k with
  | absent => rfl
  | always mask => rfl
  | chosen =>
    unfold read at h ⊢
    by_cases hv : v.getLsbD 25 <;> by_cases hw : w.getLsbD 25 <;>
      simp_all [Instruction.maskText]

theorem Mnemonic.read_inj {m : Mnemonic} {a b : Word}
    (h : (m.instruction a).tail = (m.instruction b).tail) :
    m.encoding.read a.value = m.encoding.read b.value := by
  obtain ⟨hdest, hsrc, himm, hmask⟩ := Instruction.tail_inj (i := m.instruction a)
    (j := m.instruction b) rfl (by simp [instruction, Encoding.read])
    (by simp [instruction, Encoding.read]) (by simp [instruction, Encoding.read]) h
  simp only [Encoding.read, Operands.mk.injEq]
  exact ⟨hdest, hsrc, himm, Masking.read_inj hmask⟩

namespace Isa

variable {S T : Isa} {a b : Word} {i j : Instruction}

/-- Decoded instructions with the same text are of the same operation and have the same width,
format and operands. Where the operation is not one of the three with ignored bits, they are the
same instruction of the same word. -/
theorem text_lossless (hi : S.decode a = .ok i) (hj : T.decode b = .ok j) (h : i.text = j.text) :
    (i.mnemonic = j.mnemonic ∧ i.word.width = j.word.width ∧ i.format = j.format ∧
      i.operands = j.operands) ∧
    (i.mnemonic ∉ [.integer .fence, .integer .fenceI, .compressed .nop] → i = j ∧ a = b) := by
  obtain ⟨m, -, hm, rfl⟩ := decode_eq_ok_iff.1 hi
  obtain ⟨n, -, hn, rfl⟩ := decode_eq_ok_iff.1 hj
  obtain ⟨hmn, htail⟩ := Instruction.text_inj h
  have hformat : (m.instruction a).format = (n.instruction b).format := by
    rw [Instruction.format, hmn, Instruction.format]
  have heq : m = n := hmn
  subst heq
  have hread : m.encoding.read a.value = m.encoding.read b.value := Mnemonic.read_inj htail
  have hwidth : a.width = b.width :=
    (Mnemonic.width_of_fits hm).symm.trans (Mnemonic.width_of_fits hn)
  -- without ignored bits each word is what its operands assemble to
  refine ⟨⟨hmn, hwidth, hformat, hread⟩, fun (hbits : m ∉ Mnemonic.ignoringBits) => ?_⟩
  have hword : a = b := by
    calc a = m.assemble (m.encoding.read a.value) := (Mnemonic.assemble_read hbits hm).symm
      _ = m.assemble (m.encoding.read b.value) := by rw [hread]
      _ = b := Mnemonic.assemble_read hbits hn
  exact ⟨by rw [hword], hword⟩

/-- Whatever decodes to the text of an `addi` is that word, under any instruction set. The words of
two fences differ in the bits of a destination, which `fence` ignores. -/
theorem text_of_addi_and_fences :
    (∀ (T : Isa) (b : Word) (j : Instruction), T.decode b = .ok j → j.text = "addi t0,a0,-1" →
      b = .full 0xFFF50293 ∧ rv32i.decode (.full 0xFFF50293) = .ok j) ∧
    ∃ i j, rv32im.decode (.full 0x0FF0000F) = .ok i ∧ rv32i.decode (.full 0x0FF0008F) = .ok j ∧
      i.text = j.text ∧ i ≠ j ∧ i.mnemonic = j.mnemonic ∧ i.word.width = j.word.width ∧
      i.format = j.format ∧ i.operands = j.operands := by
  have haddi : rv32i.decode (.full 0xFFF50293) =
      .ok (Mnemonic.instruction (.integer .addi) (.full 0xFFF50293)) := by rfl
  have htext' : (Mnemonic.instruction (.integer .addi) (.full 0xFFF50293)).text =
      "addi t0,a0,-1" := by rfl
  have hi : rv32im.decode (.full 0x0FF0000F) =
      .ok (Mnemonic.instruction (.integer .fence) (.full 0x0FF0000F)) := by rfl
  have hj : rv32i.decode (.full 0x0FF0008F) =
      .ok (Mnemonic.instruction (.integer .fence) (.full 0x0FF0008F)) := by rfl
  have htext : (Mnemonic.instruction (.integer .fence) (.full 0x0FF0000F)).text =
      (Mnemonic.instruction (.integer .fence) (.full 0x0FF0008F)).text := by rfl
  refine ⟨fun T b j hb hshown => ?_, _, _, hi, hj, htext, by decide,
    (text_lossless hi hj htext).1⟩
  obtain ⟨rfl, rfl⟩ := (text_lossless haddi hb (htext'.trans hshown.symm)).2 (by decide)
  exact ⟨rfl, haddi⟩

end Isa

end Rv32
