import Mathlib
import Rv32.Proofs.Concatenation
import Rv32.Proofs.WordText

/-!
# The ways to a decoded word

A word can be decoded as it is, as a number, from hexadecimal or binary text, or from memory. The
number, the hexadecimal text and the memory choose the width by the low two bits, and so they reach
the coherent words only; no other word has an opcode that an instruction set uses.

* `Word.isCoherent_iff_opcode` : whether a word is coherent shows in its opcode;
* `Isa.decode_of_not_isCoherent` : a word that is not coherent has no supported opcode;
* `Isa.decode_entry_points` : all ways to a coherent word give the same result.
-/

namespace Rv32

/-- A major opcode ends in `11`, and a quadrant does not. -/
theorem Opcode.code_mod_four_of_mem_all :
    ∀ k ∈ Opcode.all, k.code % 4 = 3 ↔ k.isCompressed = false := by decide

theorem Word.isCoherent_iff_opcode (w : Word) :
    w.IsCoherent ↔ (w.opcode.code % 4 = 3 ↔ w.opcode.isCompressed = false) := by
  cases w with
  | half b =>
    have hcode : (b.extractLsb' 0 2).toNat % 4 = b.toNat % 4 := by
      rw [toNat_extractLsb']
      omega
    simp only [IsCoherent, Width.select, toNat_value_half, width, opcode, Opcode.code, hcode,
      Opcode.isCompressed, reduceCtorEq, iff_false]
    split_ifs with h <;> simp [h]
  | full b =>
    have hcode : (b.extractLsb' 0 7).toNat % 4 = b.toNat % 4 := by
      rw [toNat_extractLsb']
      omega
    simp only [IsCoherent, Width.select, value, width, opcode, Opcode.code, hcode,
      Opcode.isCompressed, iff_true]
    split_ifs with h <;> simp [h]

namespace Isa

variable {s : Isa} {w : Word} {i : Instruction}

theorem isCoherent_of_opcode_mem (h : w.opcode ∈ s.opcodes) : w.IsCoherent :=
  w.isCoherent_iff_opcode.2 (Opcode.code_mod_four_of_mem_all _ (List.mem_of_mem_filter h))

theorem opcode_mem_of_decode (h : s.decode w = .ok i) : w.opcode ∈ s.opcodes := by
  obtain ⟨m, hs, hm, -⟩ := decode_eq_ok_iff.1 h
  exact mem_opcodes.2 ⟨_, hs, hm.1 ▸ m.opcode_mem⟩

theorem decode_of_not_isCoherent (hw : ¬ w.IsCoherent) :
    s.decode w = .error (.unsupportedOpcode w.opcode) := by
  rcases decode_cases s w with ⟨i, h⟩ | ⟨-, h⟩ | ⟨hk, -⟩
  · exact absurd (isCoherent_of_opcode_mem (opcode_mem_of_decode h)) hw
  · exact h
  · exact absurd (isCoherent_of_opcode_mem hk) hw

theorem word_of_decode (h : s.decode w = .ok i) : i.word = w := by
  obtain ⟨m, -, -, rfl⟩ := decode_eq_ok_iff.1 h
  rfl

theorem decodeHex_render (s : Isa) (hw : w.IsCoherent) {style : Text.HexStyle}
    (hs : style.padding = .zeros ∨ style.width = 0) :
    s.decodeHex (style.render w.value.toNat) = s.decode w := by
  rw [decodeHex, Word.ofHex_render hw hs]
  rfl

/-- A coherent word gives one result, an instruction or an error, whether it is decoded as it is or
by its value, from a hexadecimal numeral of either case with or without marker and leading zeros,
from its binary digits, or from its bytes in memory, where it is the only item. A word that is not
coherent has no supported opcode, so that each decoded word is coherent. -/
theorem decode_entry_points (s : Isa) (w : Word) :
    (w.IsCoherent →
      s.decodeValue w.value.toNat = s.decode w ∧
      (∀ style : Text.HexStyle, style.padding = .zeros ∨ style.width = 0 →
        s.decodeHex (style.render w.value.toNat) = s.decode w) ∧
      (Word.ofBits w.text >>= s.decode) = s.decode w ∧
      (Stream.ofBytes s w.bytes).items = [⟨0, s.decode w⟩]) ∧
    (¬ w.IsCoherent → s.decode w = .error (.unsupportedOpcode w.opcode)) ∧
    (∀ i, s.decode w = .ok i → i.word = w ∧ i.size = w.length ∧ w.IsCoherent) := by
  refine ⟨fun hw => ⟨?_, fun style hs => decodeHex_render s hw hs, ?_, ?_⟩,
    decode_of_not_isCoherent, fun i hi => ?_⟩
  · rw [decodeValue, Word.ofValue_value hw]
  · rw [Word.ofBits_text]
    rfl
  · have hnil : (Stream.ofBytes s []).items = [] := Stream.items_of_none rfl
    rw [← List.append_nil w.bytes, Stream.items_bytes_append hw, hnil]
    rfl
  · have hword := word_of_decode hi
    exact ⟨hword, congrArg Word.length hword, isCoherent_of_opcode_mem (opcode_mem_of_decode hi)⟩

/-- The half word of `c.mv a0,a1`, from an upper-case numeral with marker and leading zeros; a full
word whose opcode is not in use; and the low half of an `addi` taken as a half word. -/
theorem decode_padded_numeral :
    (Word.half 0x852E).IsCoherent ∧
    rv32imc.decodeHex "0x0000852E" = rv32imc.decode (.half 0x852E) ∧
    (Word.full 0xFFFFFFFF).IsCoherent ∧
    rv32imc.decodeHex "FFFFFFFF" = .error (.unsupportedOpcode (.major 0x7F)) ∧
    ¬ (Word.half 0x0293).IsCoherent ∧
    rv32imc.decode (.half 0x0293) = .error (.unsupportedOpcode (.quadrant 3)) ∧
    (∃ i, rv32imc.decode (.half 0x852E) = .ok i ∧ i.size = 16) := by
  have hhalf : (Word.half 0x852E).IsCoherent := by decide
  have hfull : (Word.full 0xFFFFFFFF).IsCoherent := by decide
  have hlow : ¬ (Word.half 0x0293).IsCoherent := by decide
  obtain ⟨i, hi⟩ : ∃ i, rv32imc.decode (.half 0x852E) = .ok i := ⟨_, rfl⟩
  refine ⟨hhalf, ?_, hfull, ?_, hlow, ?_, i, hi, ?_⟩
  · exact ((decode_entry_points rv32imc _).1 hhalf).2.1 ⟨true, true, 10, .zeros⟩ (.inl rfl)
  · exact ((decode_entry_points rv32imc _).1 hfull).2.1 ⟨true, false, 0, .before ' '⟩ (.inr rfl)
  · exact (decode_entry_points rv32imc _).2.1 hlow
  · exact ((decode_entry_points rv32imc _).2.2 i hi).2.1

end Isa

end Rv32
