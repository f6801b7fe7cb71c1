import Rv32.Proofs.CompressedShapes

/-!
# Compressed half words read back

`CompressedShape.assembles_iff` : the half words of a shape are those that its encoding accepts, and
the operands are those that it reads. It is put together from one lemma for each shape.
-/

namespace Rv32

/-! ## Each shape is read back by its encoding -/

namespace CompressedShape

variable {file : RegisterFile} {k : Access} {funct2 : BitVec 2} {funct3 : BitVec 3} {fmt : Format}
  {o : Operands} {w : BitVec 16}

theorem Assembles.of_eq {sh : CompressedShape} {v : BitVec 16} (h : sh.Assembles fmt o v)
    (hv : v = w) : sh.Assembles fmt o w := hv ▸ h

theorem assembles_addi4spn_iff : addi4spn.Assembles fmt o w ↔
    addi4spn.encoding.Yields (.half w) fmt o := by
  rw [yields_addi4spn_iff]
  constructor
  · intro h
    cases h with
    | addi4spn rd n aligned range =>
      generalize hw : Half.ciw n rd = w
      have hn := Immediate.stackAddress_admits_iff.2 ⟨aligned, by omega, range.2⟩
      obtain ⟨rfl, rfl, hf3, hq⟩ := (Half.ciw_eq_iff hn).1 hw
      have hne : w.toNat / 32 % 256 ≠ 0 := by
        rw [ne_eq, ← Half.stackAddress_eq_zero_iff]
        omega
      exact ⟨hq, hf3, hne, rfl, rfl⟩
  · rintro ⟨hq, hf3, hne, rfl, rfl⟩
    have hn := Immediate.admits_read (m := .stackAddress) (by decide) (w.setWidth 32)
    obtain ⟨aligned, hlo, hhi⟩ := Immediate.stackAddress_admits_iff.1 hn
    rw [ne_eq, ← Half.stackAddress_eq_zero_iff] at hne
    have hw := (Half.ciw_eq_iff hn).2 ⟨rfl, rfl, hf3, hq⟩
    exact (Assembles.addi4spn _ _ aligned ⟨by omega, hhi⟩).of_eq hw

theorem assembles_load_iff : (load file k funct3).Assembles fmt o w ↔
    (load file k funct3).encoding.Yields (.half w) fmt o := by
  rw [yields_load_iff]
  constructor
  · intro h
    cases h with
    | load _ _ _ rd rs1 n aligned range =>
      generalize hw : Half.cl k funct3 n rs1 rd = w
      have hn := Access.offset_admits_iff.2 ⟨aligned, range⟩
      obtain ⟨rfl, rfl, rfl, hf3, hq⟩ := (Half.cl_eq_iff hn).1 hw
      exact ⟨hq, hf3, rfl, rfl⟩
  · rintro ⟨hq, hf3, rfl, rfl⟩
    have hn := Immediate.admits_read (m := k.offset) (by cases k <;> decide) (w.setWidth 32)
    obtain ⟨aligned, range⟩ := Access.offset_admits_iff.1 hn
    have hw := (Half.cl_eq_iff hn).2 ⟨rfl, rfl, rfl, hf3, hq⟩
    exact (Assembles.load _ _ _ _ _ _ aligned range).of_eq hw

theorem assembles_store_iff : (store file k funct3).Assembles fmt o w ↔
    (store file k funct3).encoding.Yields (.half w) fmt o := by
  rw [yields_store_iff]
  constructor
  · intro h
    cases h with
    | store _ _ _ rs1 rs2 n aligned range =>
      generalize hw : Half.cl k funct3 n rs1 rs2 = w
      have hn := Access.offset_admits_iff.2 ⟨aligned, range⟩
      obtain ⟨rfl, rfl, rfl, hf3, hq⟩ := (Half.cl_eq_iff hn).1 hw
      exact ⟨hq, hf3, rfl, rfl⟩
  · rintro ⟨hq, hf3, rfl, rfl⟩
    have hn := Immediate.admits_read (m := k.offset) (by cases k <;> decide) (w.setWidth 32)
    obtain ⟨aligned, range⟩ := Access.offset_admits_iff.1 hn
    have hw := (Half.cl_eq_iff hn).2 ⟨rfl, rfl, rfl, hf3, hq⟩
    exact (Assembles.store _ _ _ _ _ _ aligned range).of_eq hw

theorem assembles_nop_iff : nop.Assembles fmt o w ↔ nop.encoding.Yields (.half w) fmt o := by
  rw [yields_nop_iff]
  constructor
  · intro h
    cases h with
    | nop high low =>
      generalize hw : Half.nop high low = w
      obtain ⟨-, -, hf3, hfirst, hq⟩ := Half.nop_eq_iff.1 hw
      exact ⟨hq, ⟨hf3, hfirst⟩, rfl, rfl⟩
  · rintro ⟨hq, ⟨hf3, hfirst⟩, rfl, rfl⟩
    have hw := Half.nop_eq_iff.2 ⟨rfl, rfl, hf3, hfirst, hq⟩
    exact (Assembles.nop _ _).of_eq hw

theorem assembles_addi_iff : addi.Assembles fmt o w ↔ addi.encoding.Yields (.half w) fmt o := by
  rw [yields_addi_iff]
  constructor
  · intro h
    cases h with
    | addi rd n nonzero range =>
      generalize hw : Half.small 0b000 rd n = w
      have hn := Immediate.small_admits_iff.2 range
      obtain ⟨rfl, rfl, hf3, hq⟩ := (Half.small_eq_iff hn).1 hw
      exact ⟨hq, hf3, fun h => nonzero ((Half.first_eq_iff 0).2 h), rfl, rfl⟩
  · rintro ⟨hq, hf3, hne, rfl, rfl⟩
    have hn := Immediate.admits_read (m := .small) (by decide) (w.setWidth 32)
    have hw : Half.small 0b000 (w.extractLsb' 7 5) _ = w :=
      (Half.small_eq_iff hn).2 ⟨rfl, rfl, hf3, hq⟩
    have nonzero : w.extractLsb' 7 5 ≠ 0 := fun h => hne ((Half.first_eq_iff 0).1 h)
    exact (Assembles.addi _ _ nonzero (Immediate.small_admits_iff.1 hn)).of_eq hw

theorem assembles_jal_iff : jal.Assembles fmt o w ↔ jal.encoding.Yields (.half w) fmt o := by
  rw [yields_jal_iff]
  constructor
  · intro h
    cases h with
    | jal n even range =>
      generalize hw : Half.cj 0b001 n = w
      have hn := Immediate.jumpOffset_admits_iff.2 ⟨even, range⟩
      obtain ⟨rfl, hf3, hq⟩ := (Half.cj_eq_iff hn).1 hw
      exact ⟨hq, hf3, rfl, rfl⟩
  · rintro ⟨hq, hf3, rfl, rfl⟩
    have hn := Immediate.admits_read (m := .jumpOffset) (by decide) (w.setWidth 32)
    obtain ⟨even, range⟩ := Immediate.jumpOffset_admits_iff.1 hn
    have hw : Half.cj 0b001 _ = w := (Half.cj_eq_iff hn).2 ⟨rfl, hf3, hq⟩
    exact (Assembles.jal _ even range).of_eq hw

theorem assembles_li_iff : li.Assembles fmt o w ↔ li.encoding.Yields (.half w) fmt o := by
  rw [yields_li_iff]
  constructor
  · intro h
    cases h with
    | li rd n range =>
      generalize hw : Half.small 0b010 rd n = w
      have hn := Immediate.small_admits_iff.2 range
      obtain ⟨rfl, rfl, hf3, hq⟩ := (Half.small_eq_iff hn).1 hw
      exact ⟨hq, hf3, rfl, rfl⟩
  · rintro ⟨hq, hf3, rfl, rfl⟩
    have hn := Immediate.admits_read (m := .small) (by decide) (w.setWidth 32)
    have hw : Half.small 0b010 (w.extractLsb' 7 5) _ = w :=
      (Half.small_eq_iff hn).2 ⟨rfl, rfl, hf3, hq⟩
    exact (Assembles.li _ _ (Immediate.small_admits_iff.1 hn)).of_eq hw

theorem assembles_addi16sp_iff : addi16sp.Assembles fmt o w ↔
    addi16sp.encoding.Yields (.half w) fmt o := by
  rw [yields_addi16sp_iff, ← Half.stackStep_eq_zero_iff]
  constructor
  · intro h
    cases h with
    | addi16sp n aligned range nonzero =>
      generalize hw : Half.addi16sp n = w
      have hn := Immediate.stackStep_admits_iff.2 ⟨aligned, range⟩
      obtain ⟨rfl, hf3, hfirst, hq⟩ := (Half.addi16sp_eq_iff hn).1 hw
      exact ⟨hq, ⟨hf3, hfirst⟩, nonzero, rfl, rfl⟩
  · rintro ⟨hq, ⟨hf3, hfirst⟩, nonzero, rfl, rfl⟩
    have hn := Immediate.admits_read (m := .stackStep) (by decide) (w.setWidth 32)
    obtain ⟨aligned, range⟩ := Immediate.stackStep_admits_iff.1 hn
    have hw := (Half.addi16sp_eq_iff hn).2 ⟨rfl, hf3, hfirst, hq⟩
    exact (Assembles.addi16sp _ aligned range nonzero).of_eq hw

theorem assembles_lui_iff : lui.Assembles fmt o w ↔ lui.encoding.Yields (.half w) fmt o := by
  rw [yields_lui_iff, ← Half.smallUpper_eq_zero_iff]
  constructor
  · intro h
    cases h with
    | lui rd n notSp aligned range nonzero =>
      generalize hw : Half.lui rd n = w
      have hn := Immediate.smallUpper_admits_iff.2 ⟨aligned, range⟩
      obtain ⟨rfl, rfl, hf3, hq⟩ := (Half.lui_eq_iff hn).1 hw
      exact ⟨hq, hf3, ⟨fun h => notSp ((Half.first_eq_iff 2).2 h), nonzero⟩, rfl, rfl⟩
  · rintro ⟨hq, hf3, ⟨hne, nonzero⟩, rfl, rfl⟩
    have hn := Immediate.admits_read (m := .smallUpper) (by decide) (w.setWidth 32)
    obtain ⟨aligned, range⟩ := Immediate.smallUpper_admits_iff.1 hn
    have notSp : w.extractLsb' 7 5 ≠ 2 := fun h => hne ((Half.first_eq_iff 2).1 h)
    have hw := (Half.lui_eq_iff hn).2 ⟨rfl, rfl, hf3, hq⟩
    exact (Assembles.lui _ _ notSp aligned range nonzero).of_eq hw

theorem assembles_shiftRight_iff : (shiftRight funct2).Assembles fmt o w ↔
    (shiftRight funct2).encoding.Yields (.half w) fmt o := by
  rw [yields_shiftRight_iff]
  constructor
  · intro h
    cases h with
    | shiftRight _ rd shamt =>
      generalize hw : Half.shiftRight funct2 rd shamt = w
      obtain ⟨rfl, rfl, hf3, hhigh, hf2, hq⟩ := Half.shiftRight_eq_iff.1 hw
      exact ⟨hq, ⟨hf3, hhigh, hf2⟩, rfl, rfl⟩
  · rintro ⟨hq, ⟨hf3, hhigh, hf2⟩, rfl, rfl⟩
    have hw := Half.shiftRight_eq_iff.2 ⟨rfl, rfl, hf3, hhigh, hf2, hq⟩
    exact (Assembles.shiftRight _ _ _).of_eq hw

theorem assembles_andi_iff : andi.Assembles fmt o w ↔ andi.encoding.Yields (.half w) fmt o := by
  rw [yields_andi_iff]
  constructor
  · intro h
    cases h with
    | andi rd n range =>
      generalize hw : Half.andi rd n = w
      have hn := Immediate.small_admits_iff.2 range
      obtain ⟨rfl, rfl, hf3, hf2, hq⟩ := (Half.andi_eq_iff hn).1 hw
      exact ⟨hq, ⟨hf3, hf2⟩, rfl, rfl⟩
  · rintro ⟨hq, ⟨hf3, hf2⟩, rfl, rfl⟩
    have hn := Immediate.admits_read (m := .small) (by decide) (w.setWidth 32)
    have hw := (Half.andi_eq_iff hn).2 ⟨rfl, rfl, hf3, hf2, hq⟩
    exact (Assembles.andi _ _ (Immediate.small_admits_iff.1 hn)).of_eq hw

theorem assembles_arithmetic_iff : (arithmetic funct2).Assembles fmt o w ↔
    (arithmetic funct2).encoding.Yields (.half w) fmt o := by
  rw [yields_arithmetic_iff]
  constructor
  · intro h
    cases h with
    | arithmetic _ rd rs2 =>
      generalize hw : Half.ca funct2 rd rs2 = w
      obtain ⟨rfl, rfl, hf3, hhigh, hmisc, hf2, hq⟩ := Half.ca_eq_iff.1 hw
      exact ⟨hq, ⟨hf3, hhigh, hmisc, hf2⟩, rfl, rfl⟩
  · rintro ⟨hq, ⟨hf3, hhigh, hmisc, hf2⟩, rfl, rfl⟩
    have hw := Half.ca_eq_iff.2 ⟨rfl, rfl, hf3, hhigh, hmisc, hf2, hq⟩
    exact (Assembles.arithmetic _ _ _).of_eq hw

theorem assembles_j_iff : j.Assembles fmt o w ↔ j.encoding.Yields (.half w) fmt o := by
  rw [yields_j_iff]
  constructor
  · intro h
    cases h with
    | j n even range =>
      generalize hw : Half.cj 0b101 n = w
      have hn := Immediate.jumpOffset_admits_iff.2 ⟨even, range⟩
      obtain ⟨rfl, hf3, hq⟩ := (Half.cj_eq_iff hn).1 hw
      exact ⟨hq, hf3, rfl, rfl⟩
  · rintro ⟨hq, hf3, rfl, rfl⟩
    have hn := Immediate.admits_read (m := .jumpOffset) (by decide) (w.setWidth 32)
    obtain ⟨even, range⟩ := Immediate.jumpOffset_admits_iff.1 hn
    have hw : Half.cj 0b101 _ = w := (Half.cj_eq_iff hn).2 ⟨rfl, hf3, hq⟩
    exact (Assembles.j _ even range).of_eq hw

theorem assembles_branch_iff : (branch funct3).Assembles fmt o w ↔
    (branch funct3).encoding.Yields (.half w) fmt o := by
  rw [yields_branch_iff]
  constructor
  · intro h
    cases h with
    | branch _ rs1 n even range =>
      generalize hw : Half.cb funct3 rs1 n = w
      have hn := Immediate.branchOffset_admits_iff.2 ⟨even, range⟩
      obtain ⟨rfl, rfl, hf3, hq⟩ := (Half.cb_eq_iff hn).1 hw
      exact ⟨hq, hf3, rfl, rfl⟩
  · rintro ⟨hq, hf3, rfl, rfl⟩
    have hn := Immediate.admits_read (m := .branchOffset) (by decide) (w.setWidth 32)
    obtain ⟨even, range⟩ := Immediate.branchOffset_admits_iff.1 hn
    have hw := (Half.cb_eq_iff hn).2 ⟨rfl, rfl, hf3, hq⟩
    exact (Assembles.branch _ _ _ even range).of_eq hw

theorem assembles_slli_iff : slli.Assembles fmt o w ↔ slli.encoding.Yields (.half w) fmt o := by
  rw [yields_slli_iff]
  constructor
  · intro h
    cases h with
    | slli rd shamt =>
      generalize hw : Half.slli rd shamt = w
      obtain ⟨rfl, rfl, hf3, hhigh, hq⟩ := Half.slli_eq_iff.1 hw
      exact ⟨hq, ⟨hf3, hhigh⟩, rfl, rfl⟩
  · rintro ⟨hq, ⟨hf3, hhigh⟩, rfl, rfl⟩
    have hw := Half.slli_eq_iff.2 ⟨rfl, rfl, hf3, hhigh, hq⟩
    exact (Assembles.slli _ _).of_eq hw

theorem assembles_loadStack_iff : (loadStack file k funct3).Assembles fmt o w ↔
    (loadStack file k funct3).encoding.Yields (.half w) fmt o := by
  rw [yields_loadStack_iff]
  constructor
  · intro h
    cases h with
    | loadStack _ _ _ rd n nonzero aligned range =>
      generalize hw : Half.loadStack k funct3 rd n = w
      have hn := Access.loadOffset_admits_iff.2 ⟨aligned, range⟩
      obtain ⟨rfl, rfl, hf3, hq⟩ := (Half.loadStack_eq_iff hn).1 hw
      exact ⟨hq, hf3, fun hx h => nonzero hx ((Half.first_eq_iff 0).2 h), rfl, rfl⟩
  · rintro ⟨hq, hf3, hne, rfl, rfl⟩
    have hn := Immediate.admits_read (m := k.loadOffset) (by cases k <;> decide) (w.setWidth 32)
    obtain ⟨aligned, range⟩ := Access.loadOffset_admits_iff.1 hn
    have nonzero : file = .x → w.extractLsb' 7 5 ≠ 0 :=
      fun hx h => hne hx ((Half.first_eq_iff 0).1 h)
    have hw := (Half.loadStack_eq_iff hn).2 ⟨rfl, rfl, hf3, hq⟩
    exact (Assembles.loadStack _ _ _ _ _ nonzero aligned range).of_eq hw

theorem assembles_jr_iff : jr.Assembles fmt o w ↔ jr.encoding.Yields (.half w) fmt o := by
  rw [yields_jr_iff]
  constructor
  · intro h
    cases h with
    | jr rs1 nonzero =>
      generalize hw : Half.crSingle 0b1000 rs1 = w
      obtain ⟨rfl, hf4, hsecond, hq⟩ := Half.crSingle_eq_iff.1 hw
      exact ⟨hq, ⟨hf4, hsecond⟩, fun h => nonzero ((Half.first_eq_iff 0).2 h), rfl, rfl⟩
  · rintro ⟨hq, ⟨hf4, hsecond⟩, hne, rfl, rfl⟩
    have hw : Half.crSingle 0b1000 (w.extractLsb' 7 5) = w :=
      Half.crSingle_eq_iff.2 ⟨rfl, hf4, hsecond, hq⟩
    exact (Assembles.jr _ fun h => hne ((Half.first_eq_iff 0).1 h)).of_eq hw

theorem assembles_mv_iff : mv.Assembles fmt o w ↔ mv.encoding.Yields (.half w) fmt o := by
  rw [yields_mv_iff]
  constructor
  · intro h
    cases h with
    | mv rd rs2 nonzero =>
      generalize hw : Half.cr 0b1000 rd rs2 = w
      obtain ⟨rfl, rfl, hf4, hq⟩ := Half.cr_eq_iff.1 hw
      exact ⟨hq, hf4, fun h => nonzero ((Half.second_eq_iff 0).2 h), rfl, rfl⟩
  · rintro ⟨hq, hf4, hne, rfl, rfl⟩
    have hw : Half.cr 0b1000 (w.extractLsb' 7 5) (w.extractLsb' 2 5) = w :=
      Half.cr_eq_iff.2 ⟨rfl, rfl, hf4, hq⟩
    exact (Assembles.mv _ _ fun h => hne ((Half.second_eq_iff 0).1 h)).of_eq hw

theorem assembles_ebreak_iff : ebreak.Assembles fmt o w ↔
    ebreak.encoding.Yields (.half w) fmt o := by
  rw [yields_ebreak_iff]
  constructor
  · intro h
    cases h with
    | ebreak =>
      generalize hw : Half.ebreak = w
      obtain ⟨hf4, hfirst, hsecond, hq⟩ := Half.ebreak_eq_iff.1 hw
      exact ⟨hq, ⟨hf4, hfirst, hsecond⟩, rfl, rfl⟩
  · rintro ⟨hq, ⟨hf4, hfirst, hsecond⟩, rfl, rfl⟩
    exact Assembles.ebreak.of_eq (Half.ebreak_eq_iff.2 ⟨hf4, hfirst, hsecond, hq⟩)

theorem assembles_jalr_iff : jalr.Assembles fmt o w ↔ jalr.encoding.Yields (.half w) fmt o := by
  rw [yields_jalr_iff]
  constructor
  · intro h
    cases h with
    | jalr rs1 nonzero =>
      generalize hw : Half.crSingle 0b1001 rs1 = w
      obtain ⟨rfl, hf4, hsecond, hq⟩ := Half.crSingle_eq_iff.1 hw
      exact ⟨hq, ⟨hf4, hsecond⟩, fun h => nonzero ((Half.first_eq_iff 0).2 h), rfl, rfl⟩
  · rintro ⟨hq, ⟨hf4, hsecond⟩, hne, rfl, rfl⟩
    have hw : Half.crSingle 0b1001 (w.extractLsb' 7 5) = w :=
      Half.crSingle_eq_iff.2 ⟨rfl, hf4, hsecond, hq⟩
    exact (Assembles.jalr _ fun h => hne ((Half.first_eq_iff 0).1 h)).of_eq hw

theorem assembles_add_iff : add.Assembles fmt o w ↔ add.encoding.Yields (.half w) fmt o := by
  rw [yields_add_iff]
  constructor
  · intro h
    cases h with
    | add rd rs2 nonzero =>
      generalize hw : Half.cr 0b1001 rd rs2 = w
      obtain ⟨rfl, rfl, hf4, hq⟩ := Half.cr_eq_iff.1 hw
      exact ⟨hq, hf4, fun h => nonzero ((Half.second_eq_iff 0).2 h), rfl, rfl⟩
  · rintro ⟨hq, hf4, hne, rfl, rfl⟩
    have hw : Half.cr 0b1001 (w.extractLsb' 7 5) (w.extractLsb' 2 5) = w :=
      Half.cr_eq_iff.2 ⟨rfl, rfl, hf4, hq⟩
    exact (Assembles.add _ _ fun h => hne ((Half.second_eq_iff 0).1 h)).of_eq hw

theorem assembles_storeStack_iff : (storeStack file k funct3).Assembles fmt o w ↔
    (storeStack file k funct3).encoding.Yields (.half w) fmt o := by
  rw [yields_storeStack_iff]
  constructor
  · intro h
    cases h with
    | storeStack _ _ _ rs2 n aligned range =>
      generalize hw : Half.css k funct3 rs2 n = w
      have hn := Access.storeOffset_admits_iff.2 ⟨aligned, range⟩
      obtain ⟨rfl, rfl, hf3, hq⟩ := (Half.css_eq_iff hn).1 hw
      exact ⟨hq, hf3, rfl, rfl⟩
  · rintro ⟨hq, hf3, rfl, rfl⟩
    have hn := Immediate.admits_read (m := k.storeOffset) (by cases k <;> decide) (w.setWidth 32)
    obtain ⟨aligned, range⟩ := Access.storeOffset_admits_iff.1 hn
    have hw := (Half.css_eq_iff hn).2 ⟨rfl, rfl, hf3, hq⟩
    exact (Assembles.storeStack _ _ _ _ _ aligned range).of_eq hw

/-- The half words of a shape are those that its encoding accepts, and what is read from each is what
it was assembled from. -/
theorem assembles_iff (sh : CompressedShape) :
    sh.Assembles fmt o w ↔ sh.encoding.Yields (.half w) fmt o := by
  cases sh with
  | addi4spn => exact assembles_addi4spn_iff
  | load _ _ _ => exact assembles_load_iff
  | store _ _ _ => exact assembles_store_iff
  | nop => exact assembles_nop_iff
  | addi => exact assembles_addi_iff
  | jal => exact assembles_jal_iff
  | li => exact assembles_li_iff
  | addi16sp => exact assembles_addi16sp_iff
  | lui => exact assembles_lui_iff
  | shiftRight _ => exact assembles_shiftRight_iff
  | andi => exact assembles_andi_iff
  | arithmetic _ => exact assembles_arithmetic_iff
  | j => exact assembles_j_iff
  | branch _ => exact assembles_branch_iff
  | slli => exact assembles_slli_iff
  | loadStack _ _ _ => exact assembles_loadStack_iff
  | jr => exact assembles_jr_iff
  | mv => exact assembles_mv_iff
  | ebreak => exact assembles_ebreak_iff
  | jalr => exact assembles_jalr_iff
  | add => exact assembles_add_iff
  | storeStack _ _ _ => exact assembles_storeStack_iff

end CompressedShape

end Rv32
