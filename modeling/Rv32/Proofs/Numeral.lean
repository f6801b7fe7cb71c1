import Mathlib
import Rv32.Text.Blank
import Rv32.Text.Numeral

/-!
# Digits and the numbers they denote

* `ofDigits_eq` : reading digits from the most significant one down is `Nat.ofDigits` in reverse;
* `dropWhile_zero_eq_digits` : a numeral without its leading zeros is the numeral of its number;
* `hexDigit?_eq_some_iff` : the hexadecimal digits by their codes, so that none of them is blank;
* `exists_toDigits` : what `Nat.toDigits` writes are the characters of digits that denote the
  number;
* `exists_zeros_append_toDigits` : the characters of any digits are zeros in front of that;
* `HexStyle.exists_render` : a hexadecimal numeral, padded with zeros or not, in the same way.
-/

namespace Rv32.Text

variable {base n d : Nat} {ds : List Nat} {c : Char}

/-! ## Values -/

theorem ofDigits_eq (base : Nat) (ds : List Nat) :
    ofDigits base ds = Nat.ofDigits base ds.reverse := by
  rw [Nat.ofDigits_eq_foldr, List.foldr_reverse, ofDigits]
  simp [Nat.add_comm]

theorem ofDigits_concat (base : Nat) (ds : List Nat) (d : Nat) :
    ofDigits base (ds ++ [d]) = base * ofDigits base ds + d := by
  simp [ofDigits]

theorem ofDigits_zeros_append (base k : Nat) (ds : List Nat) :
    ofDigits base (List.replicate k 0 ++ ds) = ofDigits base ds := by
  induction k with
  | zero => rfl
  | succ k ih =>
    rw [← ih, List.replicate_succ, List.cons_append, ofDigits_eq, Nat.ofDigits_reverse_zero_cons,
      ofDigits_eq]

theorem dropWhile_zero_eq_digits (hbase : 1 < base) (hds : ∀ d ∈ ds, d < base) :
    ds.dropWhile (· == 0) = (Nat.digits base (ofDigits base ds)).reverse := by
  induction ds with
  | nil => simp [ofDigits]
  | cons d ds ih =>
    by_cases hd : d = 0
    · rw [hd, ofDigits_eq, Nat.ofDigits_reverse_zero_cons, ← ofDigits_eq,
        ← ih fun e he => hds e (List.mem_cons_of_mem d he)]
      rfl
    · rw [List.dropWhile_cons_of_neg (by simpa using hd), ofDigits_eq,
        Nat.digits_ofDigits base hbase, List.reverse_reverse]
      · exact fun e he => hds e (List.mem_reverse.1 he)
      · simpa using hd

theorem bitLength_le_iff {k : Nat} : bitLength n ≤ k ↔ n < 2 ^ k := by
  unfold bitLength
  split_ifs with h
  · simp [h]
  · rw [Nat.succ_le_iff, Nat.log2_lt h]

/-! ## Characters -/

theorem mapM_eq_some_iff {α β : Type} {f : α → Option β} {l : List α} {l' : List β} :
    l.mapM f = some l' ↔ l.map f = l'.map some := by
  induction l generalizing l' with
  | nil => cases l' <;> simp
  | cons a l ih =>
    simp only [List.mapM_cons, Option.bind_eq_bind, Option.bind_eq_some_iff, ih, Option.pure_def,
      Option.some.injEq, List.map_cons]
    cases l' with
    | nil => simp
    | cons b l' =>
      simp only [List.map_cons, List.cons.injEq]
      constructor
      · rintro ⟨b, hb, l', hl, rfl, rfl⟩
        exact ⟨hb, hl⟩
      · rintro ⟨hb, hl⟩
        exact ⟨b, hb, l', hl, rfl, rfl⟩

theorem mapM_eq_none_iff {α β : Type} {f : α → Option β} {l : List α} :
    l.mapM f = none ↔ ∃ a ∈ l, f a = none := by
  induction l with
  | nil => simp
  | cons a l ih =>
    rw [List.exists_mem_cons_iff, ← ih, List.mapM_cons]
    cases f a with
    | none => simp
    | some b => cases l.mapM f <;> simp

theorem hexDigit?_digitChar : ∀ d < 16, hexDigit? d.digitChar = some d := by decide

theorem hexDigit?_toUpper : ∀ d < 16, hexDigit? d.digitChar.toUpper = some d := by decide

theorem hexDigit?_eq_some_iff : hexDigit? c = some d ↔
    (48 ≤ c.toNat ∧ c.toNat ≤ 57 ∧ d = c.toNat - 48) ∨
    (97 ≤ c.toNat ∧ c.toNat ≤ 102 ∧ d = c.toNat - 87) ∨
    (65 ≤ c.toNat ∧ c.toNat ≤ 70 ∧ d = c.toNat - 55) := by
  have hle (a b : Char) : a ≤ b ↔ a.toNat ≤ b.toNat := Iff.rfl
  simp only [hexDigit?, hle, Char.reduceToNat, ite_eq_iff, Option.some.injEq,
    reduceCtorEq, and_false, or_false]
  omega

theorem not_isBlank_of_hexDigit? (h : hexDigit? c = some d) : isBlank c = false := by
  have hc := hexDigit?_eq_some_iff.1 h
  simp only [isBlank, CodePoints.has, blanks, List.any_cons, List.any_nil, Bool.or_false,
    Bool.or_eq_false_iff, Bool.and_eq_false_iff, decide_eq_false_iff_not]
  omega

/-! ## Writing -/

theorem exists_toDigits (hbase : 1 < base) (n : Nat) : ∃ ds : List Nat, ds ≠ [] ∧
    (∀ d ∈ ds, d < base) ∧ ofDigits base ds = n ∧ Nat.toDigits base n = ds.map Nat.digitChar := by
  induction n using Nat.strongRecOn with
  | ind n ih =>
    rw [Nat.toDigits_eq_if hbase]
    split_ifs with hn
    · exact ⟨[n], by simp, by simpa using hn, by simp [ofDigits], rfl⟩
    · obtain ⟨ds, -, hlt, hvalue, hchars⟩ := ih (n / base) (Nat.div_lt_self (by omega) hbase)
      refine ⟨ds ++ [n % base], by simp, ?_, ?_, ?_⟩
      · intro d hd
        rcases List.mem_append.1 hd with hd | hd
        · exact hlt d hd
        · rw [List.mem_singleton.1 hd]
          exact Nat.mod_lt n (by omega)
      · rw [ofDigits_concat, hvalue, Nat.div_add_mod]
      · rw [List.map_append, hchars]
        rfl

/-- The characters of digits are zeros and then the numeral that `Nat.toDigits` writes. -/
theorem exists_zeros_append_toDigits (hbase : 1 < base) (hne : ds ≠ [])
    (hds : ∀ d ∈ ds, d < base) : ∃ k, ds.map Nat.digitChar =
      List.replicate k '0' ++ Nat.toDigits base (ofDigits base ds) := by
  induction ds using List.reverseRecOn with
  | nil => exact absurd rfl hne
  | append_singleton es d ih =>
    have hd : d < base := hds d (by simp)
    rw [ofDigits_concat, List.map_append, List.map_singleton, Nat.toDigits_eq_if hbase]
    by_cases hes : es = []
    · exact ⟨0, by simp [hes, ofDigits, hd]⟩
    · obtain ⟨k, hk⟩ := ih hes fun e he => hds e (List.mem_append_left _ he)
      by_cases hzero : ofDigits base es = 0
      · refine ⟨k + 1, ?_⟩
        rw [hk, hzero, Nat.mul_zero, Nat.zero_add, if_pos hd, List.replicate_succ',
          Nat.toDigits_zero]
      · have hle : ¬ base * ofDigits base es + d < base := by
          have := Nat.le_mul_of_pos_right base (Nat.pos_of_ne_zero hzero)
          omega
        have hdiv : (base * ofDigits base es + d) / base = ofDigits base es := by
          rw [Nat.mul_add_div (by omega), Nat.div_eq_of_lt hd, Nat.add_zero]
        have hmod : (base * ofDigits base es + d) % base = d := by
          rw [Nat.mul_add_mod, Nat.mod_eq_of_lt hd]
        refine ⟨k, ?_⟩
        rw [if_neg hle, hdiv, hmod, hk, List.append_assoc]

theorem Padding.exists_apply {p : Padding} {width : Nat} (h : p = .zeros ∨ width = 0)
    (marker digits : List Char) :
    ∃ k, p.apply width marker digits = marker ++ (List.replicate k '0' ++ digits) := by
  rcases h with rfl | rfl
  · exact ⟨_, rfl⟩
  · refine ⟨0, ?_⟩
    cases p <;> simp [apply, List.leftpad, List.rightpad]

/-- A numeral that is padded with zeros or not at all is the marker, if any, and the characters of
digits that denote the number. -/
theorem HexStyle.exists_render {s : HexStyle} (h : s.padding = .zeros ∨ s.width = 0) (n : Nat) :
    ∃ (cs : List Char) (ds : List Nat), ds ≠ [] ∧ ofDigits 16 ds = n ∧ cs.mapM hexDigit? = some ds ∧
      s.render n = String.ofList ((if s.marked then ['0', 'x'] else []) ++ cs) := by
  obtain ⟨ds, hne, hlt, hvalue, hchars⟩ := exists_toDigits (by decide : 1 < 16) n
  have hdigits : ((if s.upper then (Nat.toDigits 16 n).map Char.toUpper else Nat.toDigits 16 n).map
      hexDigit?) = ds.map some := by
    rw [hchars]
    split_ifs
    · simpa using fun d hd => hexDigit?_toUpper d (hlt d hd)
    · simpa using fun d hd => hexDigit?_digitChar d (hlt d hd)
  obtain ⟨k, hk⟩ := Padding.exists_apply h (if s.marked then ['0', 'x'] else [])
    (if s.upper then (Nat.toDigits 16 n).map Char.toUpper else Nat.toDigits 16 n)
  refine ⟨_, List.replicate k 0 ++ ds, by simp [hne], ?_, ?_, congrArg String.ofList hk⟩
  · rw [ofDigits_zeros_append, hvalue]
  · rw [mapM_eq_some_iff, List.map_append, hdigits, List.map_append, List.map_replicate,
      List.map_replicate]
    rfl

end Rv32.Text
