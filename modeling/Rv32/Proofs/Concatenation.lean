import Rv32.Proofs.Tiling

/-!
# Streams of joined code

* `fetch_eq_word_iff` : the word at the front of some bytes is the one whose bytes they begin with;
* `Item.shift`, `Stream.items_moveBy` : code that stands further on has the same items further on;
* `Code.exists_words` : code is the bytes of words, and behind them those of a word that is cut or
  none;
* `Stream.items_words_append`, `Stream.prefix_items_append`, `Stream.items_append` : the items of
  words with code behind them, and of code with more code behind it;
* `Stream.items_concatenate` : the three together.
-/

namespace Rv32

/-! ## The bytes of a word -/

theorem Width.select_littleEndian (b : Byte) (bs : List Byte) :
    select (littleEndian (b :: bs)) = select b.toNat := by
  unfold select littleEndian
  rw [Nat.add_mod, Nat.mul_mod]
  simp

namespace Word

variable {w : Word} {b : Byte} {bs : List Byte} {k : Width}

theorem length_bytes (w : Word) : w.bytes.length = w.width.bytes := by cases w <;> rfl

theorem littleEndian_bytes (w : Word) : littleEndian w.bytes = w.value.toNat := by
  cases w with
  | half v =>
    have hv := v.isLt
    simp only [bytes, littleEndian, value, toNat_extractLsb', BitVec.toNat_setWidth]
    omega
  | full v =>
    have hv := v.isLt
    simp only [bytes, littleEndian, value, toNat_extractLsb']
    omega

theorem ofNat_littleEndian_bytes (w : Word) : ofNat w.width (littleEndian w.bytes) = w := by
  rw [littleEndian_bytes, ofNat_value]

theorem bytes_ofNat (h : bs.length = k.bytes) : (ofNat k (littleEndian bs)).bytes = bs := by
  cases k with
  | half =>
    match bs, h with
    | [b₀, b₁], _ =>
      have hpieces := (eq_iff_eq_piece (v := b₁ ++ b₀)).1 rfl
      simp only [append_eq_piece_iff] at hpieces
      rw [← half_append, bytes, ← hpieces.1, ← hpieces.2]
  | full =>
    match bs, h with
    | [b₀, b₁, b₂, b₃], _ =>
      have hpieces := (eq_iff_eq_piece (v := b₃ ++ b₂ ++ b₁ ++ b₀)).1 rfl
      simp only [append_eq_piece_iff] at hpieces
      obtain ⟨⟨⟨h₃, h₂⟩, h₁⟩, h₀⟩ := hpieces
      rw [← full_append, bytes, ← h₀, ← h₁, ← h₂, ← h₃]

theorem isCoherent_iff_mod_four : w.IsCoherent ↔ (w.value.toNat % 4 = 3 ↔ w.width = .full) :=
  Width.select_eq_iff

/-- The low two bits of a word are those of its first byte. -/
theorem isCoherent_iff (h : w.bytes = b :: bs) : w.IsCoherent ↔ Width.select b.toNat = w.width := by
  rw [IsCoherent, ← littleEndian_bytes, h, Width.select_littleEndian]

end Word

theorem fetch_eq_none_iff {bs : List Byte} : fetch bs = none ↔ bs = [] := by
  cases bs with
  | nil => simp [fetch]
  | cons b bs =>
    rw [fetch_cons b bs rfl]
    split_ifs <;> simp

theorem fetch_eq_word_iff {bs rest : List Byte} {w : Word} :
    fetch bs = some (.word w, rest) ↔ w.IsCoherent ∧ bs = w.bytes ++ rest := by
  constructor
  · intro h
    cases bs with
    | nil => cases h
    | cons b bs =>
      rw [fetch_cons b bs rfl] at h
      split_ifs at h with hfit
      · cases h
        have hbytes := Word.bytes_ofNat (List.length_take_of_le hfit)
        refine ⟨?_, ?_⟩
        · obtain ⟨n, hn⟩ := Nat.exists_eq_add_one_of_ne_zero (Width.select b.toNat).bytes_pos.ne'
          rw [hn, List.take_succ_cons] at hbytes
          rw [hn, List.take_succ_cons, Word.isCoherent_iff hbytes, Word.width_ofNat]
        · rw [hbytes, List.take_append_drop]
      · cases h
  · rintro ⟨hw, rfl⟩
    obtain ⟨b, bs, hbytes⟩ : ∃ b bs, w.bytes = b :: bs := by cases w <;> exact ⟨_, _, rfl⟩
    have hlen : (b :: bs).length = w.width.bytes := hbytes ▸ w.length_bytes
    rw [hbytes, List.cons_append, fetch_cons b _ ((Word.isCoherent_iff hbytes).1 hw),
      ← List.cons_append, ← hlen, if_pos (by simp), List.take_left, List.drop_left, ← hbytes,
      Word.ofNat_littleEndian_bytes]

theorem rest_of_fetch_cut {bs rest : List Byte} (h : fetch bs = some (.cut, rest)) : rest = [] := by
  cases bs with
  | nil => cases h
  | cons b bs =>
    rw [fetch_cons b bs rfl] at h
    split_ifs at h
    · cases h
    · cases h
      rfl

/-! ## Items further on -/

/-- The error of an instruction that stands `d` bytes further on. -/
def DecodeError.shift (d : Nat) : DecodeError → DecodeError
  | truncated o => truncated (d + o)
  | e => e

namespace Item

/-- The item, `d` bytes further on. -/
def shift (d : Nat) (i : Item) : Item := ⟨d + i.offset, i.result.mapError (DecodeError.shift d)⟩

/-- The bytes end within the instruction. -/
def isTruncated (i : Item) : Bool :=
  match i.result with
  | .error (.truncated _) => true
  | _ => false

/-- Only the place of a cut instruction is part of what is reported. -/
theorem mapError_shift_decode (isa : Isa) (w : Word) (d : Nat) :
    (isa.decode w).mapError (DecodeError.shift d) = isa.decode w := by
  rcases isa.decode_cases w with ⟨i, h⟩ | ⟨-, h⟩ | ⟨-, h⟩ <;> rw [h] <;> rfl

theorem isTruncated_decode (isa : Isa) (w : Word) (o : Nat) :
    isTruncated ⟨o, isa.decode w⟩ = false := by
  rcases isa.decode_cases w with ⟨i, h⟩ | ⟨-, h⟩ | ⟨-, h⟩ <;> rw [h] <;> rfl

theorem isTruncated_shift (d : Nat) (i : Item) : (i.shift d).isTruncated = i.isTruncated := by
  obtain ⟨o, r⟩ := i
  rcases r with err | i
  · cases err <;> rfl
  · rfl

theorem shift_shift (d e : Nat) (i : Item) : (i.shift e).shift d = i.shift (d + e) := by
  obtain ⟨o, r⟩ := i
  unfold shift
  rcases r with err | i
  · cases err <;> simp [Except.mapError, DecodeError.shift, Nat.add_assoc]
  · simp [Except.mapError, Nat.add_assoc]

theorem shift_zero : shift 0 = id := by
  funext ⟨o, r⟩
  unfold shift
  rcases r with err | i
  · cases err <;> simp [Except.mapError, DecodeError.shift]
  · simp [Except.mapError]

end Item

namespace Stream

variable {isa : Isa} {w : Word} {ws : List Word} {t : List Byte}

/-- The stream of the same code, `d` bytes further on. -/
def moveBy (d : Nat) (s : Stream) : Stream := { s with offset := d + s.offset }

theorem next?_moveBy (d : Nat) (s : Stream) :
    (s.moveBy d).next? = s.next?.map fun p => (p.1.shift d, p.2.moveBy d) := by
  unfold next? moveBy
  cases fetch s.rest with
  | none => rfl
  | some p =>
    obtain ⟨f, rest⟩ := p
    cases f with
    | word w => simp [result, Item.shift, Item.mapError_shift_decode, Nat.add_assoc]
    | cut => simp [result, Item.shift, Except.mapError, DecodeError.shift, Nat.add_assoc]

theorem items_moveBy (d : Nat) (s : Stream) : (s.moveBy d).items = s.items.map (Item.shift d) := by
  fun_induction items s with
  | case1 s h => rw [items_of_none (by rw [next?_moveBy, h]; rfl)]; rfl
  | case2 s i t h ih =>
    rw [items_of_some (by rw [next?_moveBy, h]; rfl), ih]
    rfl

/-! ## Words one after the other -/

theorem items_bytes_append (hw : w.IsCoherent) (t : List Byte) :
    (ofBytes isa (w.bytes ++ t)).items =
      ⟨0, isa.decode w⟩ :: (ofBytes isa t).items.map (Item.shift w.bytes.length) := by
  have hnext : (ofBytes isa (w.bytes ++ t)).next? =
      some (⟨0, isa.decode w⟩, (ofBytes isa t).moveBy w.bytes.length) := by
    have hfetch : fetch (w.bytes ++ t) = some (.word w, t) := fetch_eq_word_iff.2 ⟨hw, rfl⟩
    unfold next? ofBytes moveBy
    simp [hfetch, result]
  rw [items_of_some hnext, items_moveBy]

/-- No word stands in bytes that are cut. -/
theorem isTruncated_of_mem_rest {i : Item} (ht : t = [] ∨ fetch t = some (.cut, []))
    (hi : i ∈ (ofBytes isa t).items) : i.isTruncated = true := by
  rcases ht with rfl | ht
  · rw [items_of_none rfl] at hi
    cases hi
  · have hnext : (ofBytes isa t).next? =
        some (⟨0, .error (.truncated 0)⟩, { isa, offset := t.length, rest := [] }) := by
      unfold next? ofBytes
      simp [ht, result]
    rw [items_of_some hnext, items_of_none rfl, List.mem_singleton] at hi
    rw [hi]
    rfl

/-- The items of words that stand one after the other. -/
def wordItems (isa : Isa) (ws : List Word) : List Item :=
  ws.mapIdx fun k w => ⟨((ws.take k).flatMap Word.bytes).length, isa.decode w⟩

theorem wordItems_cons (isa : Isa) (w : Word) (ws : List Word) :
    wordItems isa (w :: ws) =
      ⟨0, isa.decode w⟩ :: (wordItems isa ws).map (Item.shift w.bytes.length) := by
  rw [wordItems, List.mapIdx_cons, wordItems]
  congr 1
  refine List.ext_getElem? fun k => ?_
  simp [Item.shift, Item.mapError_shift_decode, Function.comp_def]

theorem items_words_append (hws : ∀ w ∈ ws, w.IsCoherent) (t : List Byte) :
    (ofBytes isa (ws.flatMap Word.bytes ++ t)).items = wordItems isa ws ++
      (ofBytes isa t).items.map (Item.shift (ws.flatMap Word.bytes).length) := by
  induction ws with
  | nil => simp [wordItems, Item.shift_zero]
  | cons w ws ih =>
    obtain ⟨hw, hws⟩ := List.forall_mem_cons.1 hws
    rw [List.flatMap_cons, List.append_assoc, items_bytes_append hw, ih hws, wordItems_cons,
      List.map_append, List.map_map, List.cons_append, List.length_append]
    simp [Function.comp_def, Item.shift_shift]

theorem not_isTruncated_of_mem_wordItems {i : Item} (h : i ∈ wordItems isa ws) :
    i.isTruncated = false := by
  obtain ⟨k, hk, rfl⟩ := List.mem_mapIdx.1 h
  exact Item.isTruncated_decode isa _ _

end Stream

/-- Code is made up of words, and of at most one that is cut. -/
theorem Code.exists_words (a : List Byte) : ∃ (ws : List Word) (t : List Byte),
    (∀ w ∈ ws, w.IsCoherent) ∧ a = ws.flatMap Word.bytes ++ t ∧
      (t = [] ∨ fetch t = some (.cut, [])) := by
  induction hn : a.length using Nat.strongRecOn generalizing a with
  | ind n ih =>
    cases hf : fetch a with
    | none => exact ⟨[], a, by simp, rfl, .inl (fetch_eq_none_iff.1 hf)⟩
    | some p =>
      obtain ⟨f, rest⟩ := p
      cases f with
      | cut =>
        obtain rfl := rest_of_fetch_cut hf
        exact ⟨[], a, by simp, rfl, .inr hf⟩
      | word w =>
        have hlt := length_lt_of_fetch hf
        obtain ⟨hw, rfl⟩ := fetch_eq_word_iff.1 hf
        obtain ⟨ws, t, hws, rfl, ht⟩ := ih rest.length (hn ▸ hlt) rest rfl
        exact ⟨w :: ws, t, List.forall_mem_cons.2 ⟨hw, hws⟩, by simp, ht⟩

namespace Stream

/-- What was found in some code stays when more code follows, up to a word that is cut. -/
theorem prefix_items_append (isa : Isa) (a b : List Byte) :
    (ofBytes isa a).items.filter (fun i => !i.isTruncated) <+: (ofBytes isa (a ++ b)).items := by
  obtain ⟨ws, t, hws, rfl, ht⟩ := Code.exists_words a
  have hwords : (wordItems isa ws).filter (fun i => !i.isTruncated) = wordItems isa ws :=
    List.filter_eq_self.2 fun i hi => by rw [not_isTruncated_of_mem_wordItems hi]; rfl
  have hrest : ((ofBytes isa t).items.map (Item.shift (ws.flatMap Word.bytes).length)).filter
      (fun i => !i.isTruncated) = [] := by
    refine List.filter_eq_nil_iff.2 fun i hi => ?_
    obtain ⟨j, hj, rfl⟩ := List.mem_map.1 hi
    rw [Item.isTruncated_shift, isTruncated_of_mem_rest ht hj]
    simp
  rw [List.append_assoc, items_words_append hws, items_words_append hws, List.filter_append, hwords,
    hrest, List.append_nil]
  exact List.prefix_append _ _

theorem items_append {isa : Isa} {a : List Byte}
    (ha : ∀ i ∈ (ofBytes isa a).items, i.isTruncated = false) (b : List Byte) :
    (ofBytes isa (a ++ b)).items =
      (ofBytes isa a).items ++ (ofBytes isa b).items.map (Item.shift a.length) := by
  obtain ⟨ws, t, hws, rfl, ht⟩ := Code.exists_words a
  -- an item of what is left behind the words would be one of the whole, and truncated
  have hnil : (ofBytes isa t).items = [] := by
    refine List.eq_nil_iff_forall_not_mem.2 fun i hi => ?_
    have hmem : i.shift (ws.flatMap Word.bytes).length ∈
        (ofBytes isa (ws.flatMap Word.bytes ++ t)).items := by
      rw [items_words_append hws]
      exact List.mem_append_right _ (List.mem_map_of_mem hi)
    have hcut := ha _ hmem
    rw [Item.isTruncated_shift, isTruncated_of_mem_rest ht hi] at hcut
    cases hcut
  obtain rfl := items_ofBytes_eq_nil_iff.1 hnil
  rw [List.append_assoc, items_words_append hws, items_words_append hws, hnil, List.append_nil,
    List.map_nil, List.append_nil, List.nil_append]

/-- Words that stand one after the other, full if and only if their low two bits are `11`, are
decoded each by itself, and the code behind them gives the items that it has alone, further on. So
what was found in some code stays when more code is appended, up to a word that is cut; if none is,
the appended code gives the items that it has alone. -/
theorem items_concatenate (isa : Isa) :
    (∀ (ws : List Word) (t : List Byte),
      (∀ w ∈ ws, w.value.toNat % 4 = 3 ↔ w.width = .full) →
      (ofBytes isa (ws.flatMap Word.bytes ++ t)).items =
        (ws.mapIdx fun k w => ⟨((ws.take k).flatMap Word.bytes).length, isa.decode w⟩) ++
          (ofBytes isa t).items.map (Item.shift (ws.flatMap Word.bytes).length)) ∧
    (∀ a b : List Byte,
      (ofBytes isa a).items.filter (fun i => !i.isTruncated) <+: (ofBytes isa (a ++ b)).items) ∧
    (∀ a b : List Byte, (∀ i ∈ (ofBytes isa a).items, i.isTruncated = false) →
      (ofBytes isa (a ++ b)).items =
        (ofBytes isa a).items ++ (ofBytes isa b).items.map (Item.shift a.length)) := by
  refine ⟨fun ws t hws => ?_, prefix_items_append isa, fun a b ha => items_append ha b⟩
  exact items_words_append (fun w hw => Word.isCoherent_iff_mod_four.2 (hws w hw)) t

/-- Words of both widths with three bytes of a third behind them, and code that ends between two
words. -/
theorem items_of_mixed_words :
    (∀ w ∈ [Word.full 0x00050293, .half 0x4501], w.value.toNat % 4 = 3 ↔ w.width = .full) ∧
    (ofBytes .rv32imc ([Word.full 0x00050293, .half 0x4501].flatMap Word.bytes ++
        [0x93, 0x02, 0x05])).items =
      [⟨0, Isa.rv32imc.decode (.full 0x00050293)⟩, ⟨4, Isa.rv32imc.decode (.half 0x4501)⟩,
        ⟨6, .error (.truncated 6)⟩] ∧
    (∀ i ∈ (ofBytes .rv32imc [0x01, 0x45]).items, i.isTruncated = false) ∧
    (ofBytes .rv32imc ([0x01, 0x45] ++ [0x93, 0x02, 0x05])).items =
      (ofBytes .rv32imc [0x01, 0x45]).items ++ [⟨2, .error (.truncated 2)⟩] := by
  obtain ⟨hwords, -, happend⟩ := items_concatenate .rv32imc
  have hcoherent : ∀ w ∈ [Word.full 0x00050293, .half 0x4501],
      w.value.toNat % 4 = 3 ↔ w.width = .full := by decide
  have hcut : (ofBytes .rv32imc [0x93, 0x02, 0x05]).items = [⟨0, .error (.truncated 0)⟩] := by
    rw [items_of_some rfl, items_of_none rfl]
    rfl
  have hwhole : ∀ i ∈ (ofBytes .rv32imc [0x01, 0x45]).items, i.isTruncated = false := by
    rw [items_of_some rfl, items_of_none rfl]
    intro i hi
    rw [List.mem_singleton.1 hi]
    rfl
  refine ⟨hcoherent, ?_, hwhole, ?_⟩
  · rw [hwords _ _ hcoherent, hcut]
    rfl
  · rw [happend _ _ hwhole, hcut]
    rfl

end Stream

end Rv32
