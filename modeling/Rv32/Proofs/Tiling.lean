import Rv32.Proofs.Decode
import Rv32.Proofs.Fields
import Rv32.Stream

/-!
# How a stream covers its bytes

* `Code.widthAt`, `Code.wordAt` : the instruction that begins at an offset of some code, its width
  by the low two bits of its first byte and its bits least significant byte first;
* `Code.offset` : where the items of the stream begin. Each begins behind the bytes of the one
  before, and no instruction set has a part in that;
* `Stream.place` : the place of a stream at an offset; `Stream.next?_place` is the one step from it;
* `Stream.answer` : what call after call of `next?` gives; `Stream.getElem?_items` : the items;
* `Stream.items_tile` : the items cover the code from its beginning to its end, each byte once.
-/

namespace Rv32

/-- The number of bytes. -/
def Width.bytes : Width → Nat
  | .half => 2
  | .full => 4

theorem Width.bytes_pos (k : Width) : 0 < k.bytes := by cases k <;> decide

/-- The low two bits are `11` in a full word and nowhere else. -/
theorem Width.select_eq_iff {v : Nat} {k : Width} : select v = k ↔ (v % 4 = 3 ↔ k = .full) := by
  unfold select
  split_ifs with h <;> cases k <;> simp [h]

/-- The number that the bytes hold, the least significant one first. -/
def littleEndian : List Byte → Nat
  | [] => 0
  | b :: bs => b.toNat + 256 * littleEndian bs

/-! ## The first word of some bytes -/

theorem Word.half_append (b₀ b₁ : Byte) :
    half (b₁ ++ b₀) = .ofNat .half (littleEndian [b₀, b₁]) := by
  have h₀ := b₀.isLt
  have h₁ := b₁.isLt
  rw [ofNat, half.injEq, ← BitVec.toNat_inj, toNat_append_eq_iff, BitVec.toNat_ofNat]
  simp only [littleEndian]
  omega

theorem Word.full_append (b₀ b₁ b₂ b₃ : Byte) :
    full (b₃ ++ b₂ ++ b₁ ++ b₀) = .ofNat .full (littleEndian [b₀, b₁, b₂, b₃]) := by
  have h₀ := b₀.isLt
  have h₁ := b₁.isLt
  have h₂ := b₂.isLt
  have h₃ := b₃.isLt
  rw [ofNat, full.injEq, ← BitVec.toNat_inj]
  simp only [toNat_append_eq_iff, BitVec.toNat_ofNat, littleEndian]
  omega

theorem fetch_cons {k : Width} (b : Byte) (bs : List Byte) (hk : Width.select b.toNat = k) :
    fetch (b :: bs) =
      if k.bytes ≤ (b :: bs).length then
        some (.word (.ofNat k (littleEndian ((b :: bs).take k.bytes))), (b :: bs).drop k.bytes)
      else some (.cut, []) := by
  cases k with
  | half =>
    match bs with
    | [] => rfl
    | b₁ :: rest => simp [fetch, hk, Word.half_append, Width.bytes]
  | full =>
    match bs with
    | [] => rfl
    | [b₁] => simp [fetch, hk, Width.bytes]
    | [b₁, b₂] => simp [fetch, hk, Width.bytes]
    | b₁ :: b₂ :: b₃ :: rest => simp [fetch, hk, Word.full_append, Width.bytes]

/-! ## Offsets -/

namespace Code

variable {B : List Byte} {o j : Nat}

/-- The width of the instruction that begins at `o`, by the low two bits of its first byte. -/
def widthAt (B : List Byte) (o : Nat) : Width := .select (B.getD o 0).toNat

/-- The word in the bytes of the instruction that begins at `o`. -/
def wordAt (B : List Byte) (o : Nat) : Word :=
  .ofNat (widthAt B o) (littleEndian ((B.drop o).take (widthAt B o).bytes))

/-- Where the bytes of the instruction that begins at `o` end, if the code has them all. -/
def endAt (B : List Byte) (o : Nat) : Nat := o + (widthAt B o).bytes

/-- Where the instruction behind the one at `o` begins. One that is cut ends with the code. -/
def behind (B : List Byte) (o : Nat) : Nat := min (endAt B o) B.length

/-- Where the instruction with index `k` begins; the end of the code if there is none. -/
def offset (B : List Byte) (k : Nat) : Nat := (behind B)^[k] 0

theorem endAt_eq (B : List Byte) (o : Nat) :
    endAt B o = o + if (B.getD o 0).toNat % 4 = 3 then 4 else 2 := by
  unfold endAt widthAt Width.select
  split_ifs <;> rfl

theorem behind_le_length (B : List Byte) (o : Nat) : behind B o ≤ B.length := min_le_right _ _

theorem lt_endAt (B : List Byte) (o : Nat) : o < endAt B o :=
  Nat.lt_add_of_pos_right (widthAt B o).bytes_pos

theorem lt_behind (h : o < B.length) : o < behind B o := lt_min (lt_endAt B o) h

theorem behind_eq_length (h : B.length ≤ o) : behind B o = B.length :=
  min_eq_right (h.trans (lt_endAt B o).le)

theorem offset_zero (B : List Byte) : offset B 0 = 0 := rfl

theorem offset_succ (B : List Byte) (k : Nat) : offset B (k + 1) = behind B (offset B k) :=
  Function.iterate_succ_apply' _ _ _

theorem offset_le_length (B : List Byte) (k : Nat) : offset B k ≤ B.length := by
  cases k with
  | zero => exact Nat.zero_le _
  | succ k => rw [offset_succ]; exact behind_le_length B _

theorem offset_mono (B : List Byte) : Monotone (offset B) := by
  refine monotone_nat_of_le_succ fun k => ?_
  rw [offset_succ]
  rcases Nat.lt_or_ge (offset B k) B.length with h | h
  · exact (lt_behind h).le
  · rw [behind_eq_length h]
    exact offset_le_length B k

/-- Each instruction has a byte at least, so that the end is reached. -/
theorem min_le_offset (B : List Byte) (k : Nat) : min k B.length ≤ offset B k := by
  induction k with
  | zero => exact (min_le_left _ _).trans (offset_zero B).ge
  | succ k ih =>
    rw [offset_succ]
    rcases Nat.lt_or_ge (offset B k) B.length with h | h
    · have := lt_behind h
      omega
    · rw [behind_eq_length h]
      exact min_le_right _ _

/-- Every byte of the code lies between two neighbouring offsets, and between no other two. -/
theorem existsUnique_offset_le_lt (h : j < B.length) :
    ∃! k, offset B k ≤ j ∧ j < offset B (k + 1) := by
  have hex : ∃ k, j < offset B (k + 1) := by
    refine ⟨j, ?_⟩
    have := min_le_offset B (j + 1)
    omega
  refine ⟨Nat.find hex, ⟨?_, Nat.find_spec hex⟩, ?_⟩
  · -- an earlier offset above `j` would have been found before
    cases hk : Nat.find hex with
    | zero => exact Nat.zero_le j
    | succ k => exact Nat.le_of_not_lt (Nat.find_min hex (by omega))
  · rintro k ⟨hle, hlt⟩
    refine ((Nat.find_eq_iff hex).2 ⟨hlt, fun m hm hlt' => ?_⟩).symm
    have := offset_mono B (show m + 1 ≤ k by omega)
    omega

end Code

namespace Stream

variable {isa : Isa} {B : List Byte} {o k : Nat} {s t : Stream} {i : Item}

/-! ## Call after call -/

/-- The place after a call of `next?`: behind the item, or the same place where there is none. -/
def advance (s : Stream) : Stream := (s.next?.map Prod.snd).getD s

/-- What the call of `next?` with index `k` gives. -/
def answer (s : Stream) (k : Nat) : Option Item := (advance^[k] s).next?.map Prod.fst

theorem advance_of_none (h : s.next? = none) : s.advance = s := by rw [advance, h]; rfl

theorem advance_of_some (h : s.next? = some (i, t)) : s.advance = t := by rw [advance, h]; rfl

theorem getElem?_items (s : Stream) (k : Nat) : s.items[k]? = s.answer k := by
  unfold answer
  induction k generalizing s with
  | zero =>
    cases h : s.next? with
    | none => rw [items_of_none h]; simp [h]
    | some p => rw [items_of_some h]; simp [h]
  | succ k ih =>
    rw [Function.iterate_succ_apply]
    cases h : s.next? with
    | none =>
      -- the call changes nothing, and neither do the ones after it
      rw [advance_of_none h, ← ih s, items_of_none h]
      rfl
    | some p =>
      obtain ⟨i, t⟩ := p
      rw [items_of_some h, List.getElem?_cons_succ, ih t, advance_of_some h]

/-! ## Places -/

/-- The place of the stream of `B` at the offset `o`. -/
def place (isa : Isa) (B : List Byte) (o : Nat) : Stream := { isa, offset := o, rest := B.drop o }

/-- What stands at the offset `o`. -/
def resultAt (isa : Isa) (B : List Byte) (o : Nat) : Except DecodeError Instruction :=
  if Code.endAt B o ≤ B.length then isa.decode (Code.wordAt B o) else .error (.truncated o)

theorem resultAt_eq_truncated_iff {j : Nat} :
    resultAt isa B o = .error (.truncated j) ↔ B.length < Code.endAt B o ∧ j = o := by
  unfold resultAt
  split_ifs with hfit
  · -- what has all its bytes is decoded, and decoding reports no truncation
    simp [isa.decode_ne_truncated, hfit.not_gt]
  · simp [Nat.lt_of_not_le hfit, eq_comm]

theorem next?_place (h : o < B.length) :
    (place isa B o).next? = some (⟨o, resultAt isa B o⟩, place isa B (Code.behind B o)) := by
  have hdrop : B.drop o = B.getD o 0 :: B.drop (o + 1) := by
    rw [List.drop_eq_getElem_cons h, List.getD_eq_getElem _ _ h]
  have hlen : (B.drop o).length = B.length - o := List.length_drop
  have hfetch := fetch_cons (k := Code.widthAt B o) (B.getD o 0) (B.drop (o + 1)) rfl
  rw [← hdrop, hlen] at hfetch
  unfold next? resultAt Code.behind Code.endAt
  simp only [place, hfetch]
  by_cases hfit : o + (Code.widthAt B o).bytes ≤ B.length
  · rw [if_pos (by omega), if_pos hfit]
    simp only [result, Code.wordAt, List.drop_drop, List.length_drop, Option.some.injEq,
      Prod.mk.injEq, true_and, mk.injEq]
    rw [min_eq_left hfit]
    exact ⟨by omega, rfl⟩
  · rw [if_neg (by omega), if_neg hfit]
    simp only [result, List.length_drop, List.length_nil, Option.some.injEq, Prod.mk.injEq,
      true_and, mk.injEq]
    rw [min_eq_right (by omega), List.drop_length]
    exact ⟨by omega, rfl⟩

theorem next?_place_length : (place isa B B.length).next? = none := by
  unfold next? place
  rw [List.drop_length]
  rfl

theorem advance_place (h : o ≤ B.length) :
    (place isa B o).advance = place isa B (Code.behind B o) := by
  rcases Nat.lt_or_eq_of_le h with h | rfl
  · exact advance_of_some (next?_place h)
  · rw [advance_of_none next?_place_length, Code.behind_eq_length le_rfl]

theorem advance_ofBytes (isa : Isa) (B : List Byte) (k : Nat) :
    advance^[k] (ofBytes isa B) = place isa B (Code.offset B k) := by
  induction k with
  | zero => rfl
  | succ k ih =>
    rw [Function.iterate_succ_apply', ih, advance_place (Code.offset_le_length B k),
      Code.offset_succ]

/-- There is an item at each offset before the end of the code. -/
theorem getElem?_items_ofBytes (isa : Isa) (B : List Byte) (k : Nat) :
    (ofBytes isa B).items[k]? =
      if Code.offset B k < B.length then
        some ⟨Code.offset B k, resultAt isa B (Code.offset B k)⟩
      else none := by
  rw [getElem?_items, answer, advance_ofBytes]
  split_ifs with h
  · rw [next?_place h]
    rfl
  · rw [(Code.offset_le_length B k).antisymm (Nat.le_of_not_lt h), next?_place_length]
    rfl

/-! ## Tiling -/

theorem offset_of_getElem? (h : (ofBytes isa B).items[k]? = some i) :
    Code.offset B k < B.length ∧ i = ⟨Code.offset B k, resultAt isa B (Code.offset B k)⟩ := by
  rw [getElem?_items_ofBytes] at h
  split_ifs at h with hlt
  · exact ⟨hlt, (Option.some.inj h).symm⟩

theorem items_ofBytes_eq_nil_iff : (ofBytes isa B).items = [] ↔ B = [] := by
  rw [← List.head?_eq_none_iff, List.head?_eq_getElem?, getElem?_items_ofBytes, Code.offset_zero]
  cases B with
  | nil => simp
  | cons b bs => simp

/-- The next item begins where the bytes of an item end, if there are bytes behind them. -/
theorem getElem?_items_succ (h : (ofBytes isa B).items[k]? = some i) :
    (ofBytes isa B).items[k + 1]?.map Item.offset =
      if Code.endAt B i.offset < B.length then some (Code.endAt B i.offset) else none := by
  obtain ⟨-, rfl⟩ := offset_of_getElem? h
  rw [getElem?_items_ofBytes, Code.offset_succ, Code.behind]
  rcases Nat.lt_or_ge (Code.endAt B (Code.offset B k)) B.length with hlt | hge
  · rw [min_eq_left hlt.le, if_pos hlt, if_pos hlt]
    rfl
  · rw [min_eq_right hge, if_neg (lt_irrefl _), if_neg hge.not_gt]
    rfl

theorem getElem?_items_of_cut (h : (ofBytes isa B).items[k]? = some i)
    (hcut : B.length < Code.endAt B i.offset) : (ofBytes isa B).items[k + 1]? = none := by
  have hnext := getElem?_items_succ h
  rwa [if_neg hcut.not_gt, Option.map_eq_none_iff] at hnext

/-- The bytes of an item reach to the next one. -/
theorem exists_covers_iff (h : o < B.length) :
    (∃ i, (ofBytes isa B).items[k]? = some i ∧ i.offset ≤ o ∧ o < Code.endAt B i.offset) ↔
      Code.offset B k ≤ o ∧ o < Code.offset B (k + 1) := by
  rw [Code.offset_succ, Code.behind, lt_min_iff]
  constructor
  · rintro ⟨i, hi, hle, hlt⟩
    obtain ⟨-, rfl⟩ := offset_of_getElem? hi
    exact ⟨hle, hlt, h⟩
  · rintro ⟨hle, hlt, -⟩
    exact ⟨_, by rw [getElem?_items_ofBytes, if_pos (hle.trans_lt h)], hle, hlt⟩

/-- Calls of `next?` give the items in order and nothing ever after. The items cover the code from
its beginning, each from its offset to the end of its bytes, of which there are four if the low two
bits of the first are `11` and two otherwise; the next one begins there, whether the bytes decode or
not, and there is none if that is the end of the code. An item whose bytes are not all there is the
last one, and no other is reported as truncated. -/
theorem items_tile (isa : Isa) (B : List Byte) :
    let items : List Item := (ofBytes isa B).items
    (∀ k : Nat, (ofBytes isa B).answer k = items[k]?) ∧
    (∀ k : Nat, (advance^[k] (ofBytes isa B)).offset ≤ B.length) ∧
    (items = [] ↔ B = []) ∧
    (∀ i ∈ items.head?, i.offset = 0) ∧
    (∀ (k : Nat) (i : Item), items[k]? = some i →
      i.offset < B.length ∧
      (Code.endAt B i.offset = i.offset + if (B.getD i.offset 0).toNat % 4 = 3 then 4 else 2) ∧
      (Code.endAt B i.offset ≤ B.length → i.result = isa.decode (Code.wordAt B i.offset)) ∧
      (B.length < Code.endAt B i.offset →
        i.result = .error (.truncated i.offset) ∧ items[k + 1]? = none) ∧
      items[k + 1]?.map Item.offset =
        if Code.endAt B i.offset < B.length then some (Code.endAt B i.offset) else none) ∧
    (∀ o < B.length,
      ∃! k : Nat, ∃ i : Item, items[k]? = some i ∧ i.offset ≤ o ∧ o < Code.endAt B i.offset) ∧
    (∀ (k : Nat) (i : Item) (o : Nat), items[k]? = some i → i.result = .error (.truncated o) →
      o = i.offset ∧ items[k + 1]? = none) := by
  intro items
  refine ⟨fun k => (getElem?_items _ k).symm, ?_, items_ofBytes_eq_nil_iff, ?_, ?_, ?_, ?_⟩
  · intro k
    rw [advance_ofBytes]
    exact Code.offset_le_length B k
  · intro i hi
    rw [Option.mem_def, List.head?_eq_getElem?] at hi
    obtain ⟨-, rfl⟩ := offset_of_getElem? hi
    rfl
  · intro k i hi
    refine ⟨?_, Code.endAt_eq B _, ?_, fun hcut => ⟨?_, getElem?_items_of_cut hi hcut⟩,
      getElem?_items_succ hi⟩
    all_goals obtain ⟨hlt, rfl⟩ := offset_of_getElem? hi
    · exact hlt
    · exact fun hfit => if_pos hfit
    · exact resultAt_eq_truncated_iff.2 ⟨hcut, rfl⟩
  · intro o ho
    simp only [items, exists_covers_iff ho]
    exact Code.existsUnique_offset_le_lt ho
  · intro k i o hi ho
    have hcut : B.length < Code.endAt B i.offset ∧ o = i.offset := by
      obtain ⟨-, rfl⟩ := offset_of_getElem? hi
      exact resultAt_eq_truncated_iff.1 ho
    exact ⟨hcut.2, getElem?_items_of_cut hi hcut.1⟩

/-- A half word that has no encoding, one that has, and three bytes of a full word. -/
theorem items_of_cut_word :
    let items : List Item := (ofBytes .rv32imc [0x00, 0x00, 0x01, 0x00, 0x93, 0x02, 0x05]).items
    items[0]? = some ⟨0, .error (.unknownEncoding (.quadrant 0) (.half 0))⟩ ∧
    items[1]?.map Item.offset = some 2 ∧
    items[2]? = some ⟨4, .error (.truncated 4)⟩ ∧
    items[3]? = none ∧
    ∃! k : Nat, ∃ i : Item, items[k]? = some i ∧ i.offset ≤ 6 ∧
      6 < Code.endAt [0x00, 0x00, 0x01, 0x00, 0x93, 0x02, 0x05] i.offset := by
  intro items
  obtain ⟨hanswer, -, -, -, hitem, hcover, hcut⟩ :=
    items_tile .rv32imc [0x00, 0x00, 0x01, 0x00, 0x93, 0x02, 0x05]
  have hfirst : items[0]? = some ⟨0, .error (.unknownEncoding (.quadrant 0) (.half 0))⟩ := by
    rw [← hanswer 0]
    rfl
  have hthird : items[2]? = some ⟨4, .error (.truncated 4)⟩ := by
    rw [← hanswer 2]
    rfl
  obtain ⟨-, -, -, -, hsecond⟩ := hitem 0 _ hfirst
  exact ⟨hfirst, hsecond, hthird, (hcut 2 _ 4 hthird rfl).2, hcover 6 (by decide)⟩

end Stream

end Rv32
