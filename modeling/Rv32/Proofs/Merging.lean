import Rv32.Proofs.Decode

/-!
# Tables of several extensions

* `Extension.Offers` : the extension has an entry for the opcode of a word, and the entry decodes
  it;
* `Extension.decodeMerged` : decoding with the tables of a list of extensions, merged in its order.
  The entries under an opcode are asked in turn, and the first instruction is the answer;
* `Isa.decodeMerged_eq_decode` : the order is of no account;
* `Isa.decode_conservative` : enabling an extension changes nothing that decodes without it.

All of this rests on `Mnemonic.eq_of_fits`: no two operations share a word, and so no two extensions
do.
-/

namespace Rv32

namespace Extension

variable {e e' : Extension} {es : List Extension} {w : Word} {i i' : Instruction}

/-! ## One table -/

/-- The extension has an entry for the opcode of the word, and the entry decodes the word to `i`. -/
def Offers (e : Extension) (w : Word) (i : Instruction) : Prop :=
  w.opcode ∈ e.opcodes ∧ e.decodeAt w.opcode w = .ok i

theorem decodeAt_eq_ok_iff : e.decodeAt w.opcode w = .ok i ↔
    ∃ m : Mnemonic, m.extension = e ∧ m.Fits w ∧ i = m.instruction w := by
  rw [← decode?_eq_some_iff, decodeAt, decode?]
  cases e.operationAt? w.opcode w <;> simp

theorem offers_iff :
    e.Offers w i ↔ ∃ m : Mnemonic, m.extension = e ∧ m.Fits w ∧ i = m.instruction w := by
  rw [Offers, decodeAt_eq_ok_iff, and_iff_right_iff_imp]
  rintro ⟨m, rfl, hm, -⟩
  exact hm.1 ▸ m.opcode_mem

theorem Offers.eq (h : e.Offers w i) (h' : e'.Offers w i') : e = e' ∧ i = i' := by
  obtain ⟨m, rfl, hm, rfl⟩ := offers_iff.1 h
  obtain ⟨n, rfl, hn, rfl⟩ := offers_iff.1 h'
  rw [Mnemonic.eq_of_fits hm hn]
  exact ⟨rfl, rfl⟩

/-- An entry that does not decode a word reports the word and its opcode, whatever opcode the entry
is for. -/
theorem decodeAt_cases (e : Extension) (k : Opcode) (w : Word) :
    (∃ i, e.decodeAt k w = .ok i) ∨ e.decodeAt k w = .error (.unknownEncoding w.opcode w) := by
  unfold decodeAt
  cases e.operationAt? k w with
  | none => exact .inr rfl
  | some m => exact .inl ⟨_, rfl⟩

/-! ## Merged tables -/

/-- The extensions with an entry for the opcode `k`, in the order of their tables. -/
def entries (es : List Extension) (k : Opcode) : List Extension := es.filter (·.opcodes.contains k)

/-- Asks one entry after the other. An instruction ends the search; so does an error, unless it is
that the encoding is unknown, which the next entry may know. `last` is reported behind the last
one. -/
def consult (w : Word) (last : DecodeError) : List Extension → Except DecodeError Instruction
  | [] => .error last
  | e :: es =>
    match e.decodeAt w.opcode w with
    | .ok i => .ok i
    | .error (.unknownEncoding k v) => consult w (.unknownEncoding k v) es
    | .error err => .error err

/-- Decoding with the tables of `es`, merged in this order. -/
def decodeMerged (es : List Extension) (w : Word) : Except DecodeError Instruction :=
  match entries es w.opcode with
  | [] => .error (.unsupportedOpcode w.opcode)
  | es => consult w (.unsupportedOpcode w.opcode) es

theorem mem_entries : e ∈ entries es w.opcode ↔ e ∈ es ∧ w.opcode ∈ e.opcodes := by
  rw [entries, List.mem_filter, List.contains_iff_mem]

/-- An entry that decodes the word is reached, whatever stands before it. -/
theorem consult_of_mem (last : DecodeError) (he : e ∈ es) (h : e.decodeAt w.opcode w = .ok i) :
    consult w last es = .ok i := by
  induction es generalizing last with
  | nil => cases he
  | cons d es ih =>
    unfold consult
    rcases d.decodeAt_cases w.opcode w with ⟨j, hj⟩ | hd
    · obtain ⟨m, -, hm, rfl⟩ := decodeAt_eq_ok_iff.1 h
      obtain ⟨n, -, hn, rfl⟩ := decodeAt_eq_ok_iff.1 hj
      rw [hj, Mnemonic.eq_of_fits hn hm]
    · rw [hd]
      refine ih _ ((List.mem_cons.1 he).resolve_left ?_)
      rintro rfl
      rw [h] at hd
      cases hd

theorem consult_of_forall (last : DecodeError)
    (h : ∀ e ∈ es, e.decodeAt w.opcode w = .error (.unknownEncoding w.opcode w)) :
    consult w last es = .error (if es = [] then last else .unknownEncoding w.opcode w) := by
  induction es generalizing last with
  | nil => rfl
  | cons d es ih =>
    obtain ⟨hd, hes⟩ := List.forall_mem_cons.1 h
    unfold consult
    rw [hd]
    change consult w _ es = _
    rw [ih _ hes, ite_self, if_neg (List.cons_ne_nil d es)]

theorem decodeMerged_of_nil (h : entries es w.opcode = []) :
    decodeMerged es w = .error (.unsupportedOpcode w.opcode) := by
  rw [decodeMerged, h]

theorem decodeMerged_of_ne_nil (h : entries es w.opcode ≠ []) :
    decodeMerged es w = consult w (.unsupportedOpcode w.opcode) (entries es w.opcode) := by
  unfold decodeMerged
  split
  · contradiction
  · rfl

end Extension

namespace Isa

open Extension

variable {s t : Isa} {w v : Word} {k : Opcode} {i : Instruction}

/-! ## Instruction sets -/

theorem decode_eq_ok_iff_offers : s.decode w = .ok i ↔ ∃ e, s.supports e ∧ e.Offers w i := by
  rw [decode_eq_ok_iff]
  constructor
  · rintro ⟨m, hs, hm⟩
    exact ⟨m.extension, hs, offers_iff.2 ⟨m, rfl, hm⟩⟩
  · rintro ⟨e, hs, h⟩
    obtain ⟨m, rfl, hm⟩ := offers_iff.1 h
    exact ⟨m, hs, hm⟩

/-- Only which tables are merged counts, not in which order. -/
theorem decodeMerged_eq_decode {es : List Extension} (hes : ∀ e, e ∈ es ↔ s.supports e) (w : Word) :
    decodeMerged es w = s.decode w := by
  rcases s.decode_cases w with ⟨i, h⟩ | ⟨hk, h⟩ | ⟨hk, h⟩
  · obtain ⟨e, he, hoffer⟩ := decode_eq_ok_iff_offers.1 h
    have hmem : e ∈ entries es w.opcode := mem_entries.2 ⟨(hes e).2 he, hoffer.1⟩
    rw [decodeMerged_of_ne_nil (List.ne_nil_of_mem hmem), consult_of_mem _ hmem hoffer.2, h]
  · have hnil : entries es w.opcode = [] := by
      refine List.eq_nil_iff_forall_not_mem.2 fun e he => hk ?_
      obtain ⟨he, hop⟩ := mem_entries.1 he
      exact mem_opcodes.2 ⟨e, (hes e).1 he, hop⟩
    rw [decodeMerged_of_nil hnil, h]
  · obtain ⟨e, he, hop⟩ := mem_opcodes.1 hk
    have hne : entries es w.opcode ≠ [] :=
      List.ne_nil_of_mem (mem_entries.2 ⟨(hes e).2 he, hop⟩)
    have hnone : ∀ e ∈ entries es w.opcode,
        e.decodeAt w.opcode w = .error (.unknownEncoding w.opcode w) := by
      intro d hd
      obtain ⟨hd, hop⟩ := mem_entries.1 hd
      refine (d.decodeAt_cases w.opcode w).resolve_left ?_
      rintro ⟨i, hi⟩
      rw [decode_eq_ok_iff_offers.2 ⟨d, (hes d).1 hd, hop, hi⟩] at h
      cases h
    rw [decodeMerged_of_ne_nil hne, consult_of_forall _ hnone, if_neg hne, h]

theorem decode_of_le (hst : ∀ e, s.supports e → t.supports e) (h : s.decode w = .ok i) :
    t.decode w = .ok i := by
  obtain ⟨e, he, hoffer⟩ := decode_eq_ok_iff_offers.1 h
  exact decode_eq_ok_iff_offers.2 ⟨e, hst e he, hoffer⟩

theorem decode_unknown_of_le (hst : ∀ e, s.supports e → t.supports e)
    (h : s.decode w = .error (.unknownEncoding k v)) :
    (∃ i, t.decode w = .ok i) ∨ t.decode w = .error (.unknownEncoding k v) := by
  -- the opcode is in use under `s`, and so it is under `t`
  have hs : w.opcode ∈ s.opcodes ∧ k = w.opcode ∧ v = w := by
    rcases s.decode_cases w with ⟨i, h'⟩ | ⟨-, h'⟩ | ⟨hk, h'⟩
    all_goals rw [h] at h'; cases h'
    exact ⟨hk, rfl, rfl⟩
  obtain ⟨e, he, hop⟩ := mem_opcodes.1 hs.1
  have ht : w.opcode ∈ t.opcodes := mem_opcodes.2 ⟨e, hst e he, hop⟩
  rw [hs.2.1, hs.2.2]
  rcases t.decode_cases w with h' | ⟨hk, -⟩ | ⟨-, h'⟩
  · exact .inl h'
  · exact absurd ht hk
  · exact .inr h'

/-- At most one extension has a word, and an instruction set decodes it if it has that extension. So
an instruction set with more extensions decodes to the same instruction what decodes already; an
encoding that was unknown stays so unless it becomes known; and the order in which tables are
merged has no effect on any result. -/
theorem decode_conservative (w : Word) :
    (∀ (e e' : Extension) (i i' : Instruction), e.Offers w i → e'.Offers w i' → e = e') ∧
    (∀ (s : Isa) (i : Instruction), s.decode w = .ok i ↔ ∃ e, s.supports e ∧ e.Offers w i) ∧
    (∀ s t : Isa, (∀ e, s.supports e → t.supports e) →
      (∀ i, s.decode w = .ok i → t.decode w = .ok i) ∧
      ∀ k v, s.decode w = .error (.unknownEncoding k v) →
        (∃ i, t.decode w = .ok i) ∨ t.decode w = .error (.unknownEncoding k v)) ∧
    ∀ (s : Isa) (es : List Extension), es.Perm s.extensions → decodeMerged es w = s.decode w := by
  refine ⟨fun e e' i i' h h' => (h.eq h').1, fun s i => decode_eq_ok_iff_offers, ?_, ?_⟩
  · intro s t hst
    exact ⟨fun i => decode_of_le hst, fun k v => decode_unknown_of_le hst⟩
  · intro s es hes
    exact decodeMerged_eq_decode (fun e => hes.mem_iff.trans mem_extensions) w

/-- A product under three instruction sets, the last with its tables in reverse order. -/
theorem decode_mul_more_extensions :
    rv32i.decode (.full 0x022081B3) = .error (.unknownEncoding .op (.full 0x022081B3)) ∧
    ∃ i, rv32im.decode (.full 0x022081B3) = .ok i ∧ rv32imvc.decode (.full 0x022081B3) = .ok i ∧
      decodeMerged [.compressed, .vector, .multiply, .integer] (.full 0x022081B3) = .ok i := by
  obtain ⟨-, -, hmore, horder⟩ := decode_conservative (.full 0x022081B3)
  have hle : ∀ e, rv32i.supports e → rv32im.supports e := by intro e; cases e <;> decide
  have hle' : ∀ e, rv32im.supports e → rv32imvc.supports e := by intro e; cases e <;> decide
  have hperm : [Extension.compressed, .vector, .multiply, .integer].Perm rv32imvc.extensions := by
    decide
  have hunknown : rv32i.decode (.full 0x022081B3) =
      .error (.unknownEncoding .op (.full 0x022081B3)) := by rfl
  obtain ⟨i, hmul⟩ := ((hmore rv32i rv32im hle).2 _ _ hunknown).resolve_right (by decide +kernel)
  have hmul' := (hmore _ _ hle').1 i hmul
  exact ⟨hunknown, i, hmul, hmul', (horder _ _ hperm).trans hmul'⟩

end Isa

end Rv32
