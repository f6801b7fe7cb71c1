import Rv32.Proofs.EntryPoints
import Rv32.Proofs.Merging

/-!
# Why a word does not decode

A word does not decode because no enabled extension uses its opcode, or because none of those that
use it has an encoding for the word. The error says which, and has the opcode of the word.

* `Isa.decode_eq_error_iff` : the two errors of decoding, each with its cause;
* `Isa.consult_entries` : where an opcode is in use, asking its entries in turn gives the result of
  decoding, and never the error that the search starts from;
* `Word.ofHex_cases` : reading a hexadecimal numeral adds two errors;
* `Stream.result_of_mem_items` : reading bytes adds one;
* `Isa.decode_errors_exact` : all of this together.
-/

namespace Rv32

/-! ## Errors of decoding -/

namespace Isa

open Extension

variable {s : Isa} {w : Word} {err : DecodeError}

theorem forall_not_offers_iff :
    (∀ e i, s.supports e → ¬ e.Offers w i) ↔ ∀ i, s.decode w ≠ .ok i := by
  constructor
  · intro h i hi
    obtain ⟨e, he, hoffer⟩ := decode_eq_ok_iff_offers.1 hi
    exact h e i he hoffer
  · intro h e i he hoffer
    exact h i (decode_eq_ok_iff_offers.2 ⟨e, he, hoffer⟩)

theorem decode_eq_error_iff : s.decode w = .error err ↔
    (err = .unsupportedOpcode w.opcode ∧ w.opcode ∉ s.opcodes) ∨
    (err = .unknownEncoding w.opcode w ∧ w.opcode ∈ s.opcodes ∧
      ∀ e i, s.supports e → ¬ e.Offers w i) := by
  rw [forall_not_offers_iff]
  rcases s.decode_cases w with ⟨i, h⟩ | ⟨hk, h⟩ | ⟨hk, h⟩
  · have hk := opcode_mem_of_decode h
    simp [h, hk]
  · simp [h, hk, eq_comm]
  · simp [h, hk, eq_comm]

/-- The message of an error shows the opcode of the word. -/
theorem exists_message_eq (h : s.decode w = .error err) :
    ∃ before after : String, err.message = before ++ w.opcode.text ++ after := by
  rcases decode_eq_error_iff.1 h with ⟨rfl, -⟩ | ⟨rfl, -⟩
  · have hmessage : (DecodeError.unsupportedOpcode w.opcode).message =
        "unsupported opcode: " ++ w.opcode.text := rfl
    exact ⟨_, "", hmessage.trans String.append_empty.symm⟩
  · have hmessage : (DecodeError.unknownEncoding w.opcode w).message =
        "unknown encoding for " ++ w.opcode.text ++ ": 0x" ++ Text.hex w.value.toNat := rfl
    exact ⟨_, _, hmessage.trans String.append_assoc⟩

/-! ## The search through the entries of an opcode -/

theorem entries_ne_nil (hk : w.opcode ∈ s.opcodes) : entries s.extensions w.opcode ≠ [] := by
  obtain ⟨e, he, hop⟩ := mem_opcodes.1 hk
  exact List.ne_nil_of_mem (mem_entries.2 ⟨mem_extensions.2 he, hop⟩)

/-- The entries under an opcode in use answer for the instruction set, whatever error the search
starts from. -/
theorem consult_entries (hk : w.opcode ∈ s.opcodes) (last : DecodeError) :
    consult w last (entries s.extensions w.opcode) = s.decode w := by
  have hne := entries_ne_nil hk
  rw [← decodeMerged_eq_decode (fun e => mem_extensions) w, decodeMerged_of_ne_nil hne]
  -- the first entry replaces the error or ends the search
  obtain ⟨e, es, h⟩ := List.exists_cons_of_ne_nil hne
  rw [h]
  rfl

end Isa

/-! ## Errors of reading -/

theorem Word.ofHex_cases (text : String) :
    (∃ w, ofHex text = .ok w) ∨ ofHex text = .error (.malformedHex text) ∨
      ∃ n, ofHex text = .error (.invalidWidth n) := by
  unfold ofHex
  split
  · exact .inr (.inl rfl)
  · exact .inr (.inl rfl)
  · unfold ofHexDigits
    dsimp only
    split_ifs
    · exact .inr (.inr ⟨_, rfl⟩)
    · exact .inr (.inr ⟨_, rfl⟩)
    · exact .inl ⟨_, rfl⟩

theorem Stream.result_of_mem_items {s : Isa} {B : List Byte} {i : Item}
    (h : i ∈ (ofBytes s B).items) :
    i.result = s.decode (Code.wordAt B i.offset) ∨ i.result = .error (.truncated i.offset) := by
  obtain ⟨k, hk⟩ := List.getElem?_of_mem h
  obtain ⟨-, rfl⟩ := offset_of_getElem? hk
  dsimp only
  unfold resultAt
  split_ifs
  · exact .inl rfl
  · exact .inr rfl

/-! ## Exactness -/

/-- A word does not decode for one of two reasons: its opcode is not in use, which is to say that no
enabled extension has an entry for it, or entries for it exist and none of them decodes the word.
The error is that of the reason; it has the opcode of the word and shows it. An entry can only fail
by not knowing the encoding, and reports the opcode of the word and not that which it is for; so the
search through the entries passes on to the last of them, and its result does not depend on the
error that it starts from. Numerals and bytes add the errors of reading them. -/
theorem Isa.decode_errors_exact (s : Isa) :
    (∀ (w : Word) (err : DecodeError), s.decode w = .error err ↔
      (err = .unsupportedOpcode w.opcode ∧ w.opcode ∉ s.opcodes) ∨
      (err = .unknownEncoding w.opcode w ∧ w.opcode ∈ s.opcodes ∧
        ∀ e i, s.supports e → ¬ e.Offers w i)) ∧
    (∀ k : Opcode, k ∈ s.opcodes ↔ ∃ e, s.supports e ∧ k ∈ e.opcodes) ∧
    (∀ (w : Word) (err : DecodeError), s.decode w = .error err →
      ∃ before after : String, err.message = before ++ w.opcode.text ++ after) ∧
    (∀ (e : Extension) (k : Opcode) (w : Word) (err : DecodeError),
      e.decodeAt k w = .error err → err = .unknownEncoding w.opcode w) ∧
    (∀ (w : Word) (last : DecodeError), w.opcode ∈ s.opcodes →
      Extension.consult w last (Extension.entries s.extensions w.opcode) = s.decode w) ∧
    (∀ (text : String) (err : DecodeError), s.decodeHex text = .error err →
      err = .malformedHex text ∨ (∃ n, err = .invalidWidth n) ∨
        ∃ w, Word.ofHex text = .ok w ∧ s.decode w = .error err) ∧
    ∀ (B : List Byte) (i : Item) (err : DecodeError), i ∈ (Stream.ofBytes s B).items →
      i.result = .error err →
        err = .truncated i.offset ∨ s.decode (Code.wordAt B i.offset) = .error err := by
  refine ⟨fun w err => decode_eq_error_iff, fun k => mem_opcodes, fun w err => exists_message_eq,
    ?_, fun w last hk => consult_entries hk last, ?_, ?_⟩
  · intro e k w err h
    rcases e.decodeAt_cases k w with ⟨i, hi⟩ | he
    · rw [hi] at h
      cases h
    · rw [he] at h
      cases h
      rfl
  · intro text err h
    rw [decodeHex] at h
    rcases Word.ofHex_cases text with ⟨w, hw⟩ | hhex | ⟨n, hn⟩
    · rw [hw] at h
      exact .inr (.inr ⟨w, hw, h⟩)
    · rw [hhex] at h
      cases h
      exact .inl rfl
    · rw [hn] at h
      cases h
      exact .inr (.inl ⟨n, rfl⟩)
  · intro B i err hi herr
    rcases Stream.result_of_mem_items hi with h | h
    · exact .inr (h.symm.trans herr)
    · rw [h] at herr
      cases herr
      exact .inl rfl

/-- Without the multiply extension: a product, which a search that starts from another error reports
all the same; a sum of vectors; a numeral that is none; and a full word that is cut. -/
theorem Isa.decode_errors_of_rv32i :
    rv32i.decode (.full 0x022081B3) = .error (.unknownEncoding .op (.full 0x022081B3)) ∧
    (∀ e i, rv32i.supports e → ¬ e.Offers (.full 0x022081B3) i) ∧
    Extension.consult (.full 0x022081B3) (.truncated 0)
      (Extension.entries rv32i.extensions .op) =
        .error (.unknownEncoding .op (.full 0x022081B3)) ∧
    rv32i.decode (.full 0x022180D7) = .error (.unsupportedOpcode .opV) ∧
    (∃ err, rv32i.decodeHex "0x" = .error err ∧ err = .malformedHex "0x") ∧
    ∃ i ∈ (Stream.ofBytes rv32i [0x93, 0x02]).items, ∃ err,
      i.result = .error err ∧ err = .truncated i.offset := by
  obtain ⟨herror, -, -, -, hconsult, hhex, hitem⟩ := decode_errors_exact rv32i
  have hmul : rv32i.decode (.full 0x022081B3) =
      .error (.unknownEncoding .op (.full 0x022081B3)) := by rfl
  have hcause := ((herror _ _).1 hmul).resolve_left fun h => nomatch h.1
  have hvadd : rv32i.decode (.full 0x022180D7) = .error (.unsupportedOpcode .opV) :=
    (herror _ _).2 (.inl ⟨rfl, by decide⟩)
  have hnumeral : rv32i.decodeHex "0x" = .error (.malformedHex "0x") := by rfl
  have hcut : (⟨0, .error (.truncated 0)⟩ : Item) ∈ (Stream.ofBytes rv32i [0x93, 0x02]).items := by
    rw [Stream.items_of_some (i := ⟨0, .error (.truncated 0)⟩) rfl]
    exact List.mem_cons_self
  refine ⟨hmul, hcause.2.2, (hconsult _ _ hcause.2.1).trans hmul, hvadd, ⟨_, hnumeral, ?_⟩,
    _, hcut, _, rfl, ?_⟩
  · rcases hhex _ _ hnumeral with h | ⟨n, hn⟩ | ⟨w, -, hw⟩
    · exact h
    · cases hn
    · exact absurd ((herror _ _).1 hw) (by simp)
  · exact (hitem _ _ _ hcut rfl).resolve_right (rv32i.decode_ne_truncated _ _)

end Rv32
