import ChartLayer.Proofs.Number.Numerals
import ChartLayer.Proofs.Text.Lowered
import ChartLayer.Proofs.Time.Grammar
import ChartLayer.Record.Read
import ChartLayer.Record.Write

/-!
# Labels of timeframes read back

A label is a count and the name of a unit, whether it is listed or made from the longest unit that
goes into the timeframe (`exists_label_eq`). It has nothing to trim and no capitals, it is no
integer because of the name of the unit, and there are no more units than seconds. So it names the
count times the unit (`names_label`), which is the timeframe again.

* `parse?_label`: every label is parsed to the timeframe it came from.
* `labels_round_trip`: so labels tell timeframes apart, and documents give timeframes back.
-/

namespace ChartLayer

open Decimal (numerals)

namespace Timeframe

/-! ## What labels look like -/

/-- The name of a unit, as it stands behind a number. -/
structure IsUnitLetter (length : Time) (c : Char) : Prop where
  not_isDigit : c.isDigit = false
  not_isBlank : isBlank c = false
  isLowered : LetterCase.IsLowered c
  unitSecs_eq : unitSecs? (String.ofList [c]) = some length
  positive : 0 < length

theorem exists_unitLetter {unit : Time × String} (h : unit ∈ labelUnits) :
    ∃ c, unit.2 = String.ofList [c] ∧ IsUnitLetter unit.1 c := by
  simp only [labelUnits, List.mem_cons, List.not_mem_nil, or_false] at h
  rcases h with rfl | rfl | rfl | rfl | rfl
  · exact ⟨'w', by decide, by decide, by decide, by decide +kernel, by decide, by decide⟩
  · exact ⟨'d', by decide, by decide, by decide, by decide +kernel, by decide, by decide⟩
  · exact ⟨'h', by decide, by decide, by decide, by decide +kernel, by decide, by decide⟩
  · exact ⟨'m', by decide, by decide, by decide, by decide +kernel, by decide, by decide⟩
  · exact ⟨'s', by decide, by decide, by decide, by decide +kernel, by decide, by decide⟩

/-- The listed labels are made of the units too. -/
theorem listed_eq_unit : listed.all (fun entry => labelUnits.any fun unit =>
    entry.2 % unit.1 == 0 && entry.1 == timeText (entry.2 / unit.1) ++ unit.2) = true := by
  decide +kernel

theorem exists_unit (tf : Timeframe) :
    ∃ unit ∈ labelUnits, tf.secs % unit.1 = 0 ∧
      tf.label = timeText (tf.secs / unit.1) ++ unit.2 := by
  rw [label]
  split
  · next entry hfound =>
    have hentry : entry.2 = tf.secs := by simpa using List.find?_some hfound
    have hall := List.all_eq_true.mp listed_eq_unit entry (List.mem_of_find?_eq_some hfound)
    obtain ⟨unit, hunit, hboth⟩ := List.any_eq_true.mp hall
    rw [Bool.and_eq_true, beq_iff_eq, beq_iff_eq, hentry] at hboth
    exact ⟨unit, hunit, hboth⟩
  · split
    · next length name hfound =>
      have hwhole : tf.secs % length = 0 := by simpa using List.find?_some hfound
      exact ⟨(length, name), List.mem_of_find?_eq_some hfound, hwhole, rfl⟩
    · next hnone =>
      have hone := List.find?_eq_none.mp hnone (1, "s") (by decide)
      have hwhole : tf.secs % 1 = 0 := Int64.toInt_inj.mp (by simp)
      exact absurd (beq_iff_eq.mpr hwhole) hone

/-- A unit that goes into a timeframe goes into it a whole number of times. -/
theorem toInt_div_mul {secs length : Time} (hsecs : 0 < secs) (hlength : 0 < length)
    (h : secs % length = 0) :
    0 ≤ (secs / length).toInt ∧ (secs / length).toInt * length.toInt = secs.toInt := by
  have hpos : 0 < secs.toInt := Int64.lt_iff_toInt_lt.mp hsecs
  have hpos' : 0 < length.toInt := Int64.lt_iff_toInt_lt.mp hlength
  have hmax := secs.toInt_le
  have hrest : secs.toInt.tmod length.toInt = 0 := by
    rw [← Int64.toInt_mod, h, Int64.toInt_zero]
  have hwhole : secs.toInt.tdiv length.toInt * length.toInt = secs.toInt :=
    Int.tdiv_mul_cancel_of_tmod_eq_zero hrest
  have hnonneg : 0 ≤ secs.toInt.tdiv length.toInt := Int.tdiv_nonneg (by omega) (by omega)
  have hle : secs.toInt.tdiv length.toInt ≤ secs.toInt := Int.tdiv_le_self _ (by omega)
  have hquotient : (secs / length).toInt = secs.toInt.tdiv length.toInt := by
    have hlimit : Int64.maxValue.toInt = 2 ^ 63 - 1 := by decide
    rw [Int64.toInt_div]
    exact Int.bmod_eq_of_le (by omega) (by omega)
  rw [hquotient]
  exact ⟨hnonneg, hwhole⟩

/-- **Labels.** A count, and the letter of a unit. -/
theorem exists_label_eq (tf : Timeframe) :
    ∃ (count : Nat) (length : Time) (c : Char), IsUnitLetter length c ∧
      tf.label = String.ofList (numerals count ++ [c]) ∧
      (count : Int) * length.toInt = tf.secs.toInt := by
  obtain ⟨unit, hunit, hwhole, hlabel⟩ := tf.exists_unit
  obtain ⟨c, hname, hletter⟩ := exists_unitLetter hunit
  obtain ⟨hnonneg, hproduct⟩ := toInt_div_mul tf.positive hletter.positive hwhole
  refine ⟨(tf.secs / unit.1).toInt.natAbs, unit.1, c, hletter, ?_, ?_⟩
  · rw [hlabel, hname, timeText_of_nonneg hnonneg, String.ofList_append]
  · rw [Int.natAbs_of_nonneg hnonneg, hproduct]

/-! ## Reading them -/

/-- A count and the letter of a unit are a label. -/
theorem isLabel_numerals (count : Nat) {length : Time} {c : Char}
    (hletter : IsUnitLetter length c) : IsLabel (numerals count ++ [c]) count length := by
  have hunit := unitSecs?_eq_some_iff.mp hletter.unitSecs_eq
  have hnumeral := isNumeral_numerals count
  have hlabel := IsLabel.numberFirst hunit hnumeral.isDigit
  rwa [String.toList_ofList, countOf, if_neg hnumeral.nonempty, digitsValue_numerals] at hlabel

/-- There are no more units in a timeframe than it has seconds. -/
theorem count_le {tf : Timeframe} {count : Nat} {length : Time} {c : Char}
    (hletter : IsUnitLetter length c) (hproduct : (count : Int) * length.toInt = tf.secs.toInt) :
    (count : Int) ≤ Int64.maxValue.toInt := by
  have hlength : 0 < length.toInt := Int64.lt_iff_toInt_lt.mp hletter.positive
  have hmax : tf.secs.toInt ≤ Int64.maxValue.toInt := tf.secs.toInt_le
  have hcount : (count : Int) * 1 ≤ count * length.toInt :=
    Int.mul_le_mul_of_nonneg_left (by omega) (Int.natCast_nonneg count)
  omega

theorem unblank_label (tf : Timeframe) : Unblank tf.label := by
  obtain ⟨count, length, c, hletter, hlabel, -⟩ := tf.exists_label_eq
  rw [hlabel, String.ofList_append]
  refine (unblank_ofList fun _ => isBlank_of_mem_numerals).append (unblank_ofList ?_)
  simpa using hletter.not_isBlank

theorem label_ne_empty (tf : Timeframe) : tf.label ≠ "" := by
  obtain ⟨count, length, c, -, hlabel, -⟩ := tf.exists_label_eq
  rw [hlabel]
  simp

theorem isTrimmedText_label (tf : Timeframe) : IsTrimmedText tf.label :=
  tf.unblank_label.isTrimmedText tf.label_ne_empty

theorem lowercase_label (tf : Timeframe) : lowercase tf.label = tf.label := by
  obtain ⟨count, length, c, hletter, hlabel, -⟩ := tf.exists_label_eq
  refine lowercase_eq_self fun d hd => ?_
  rw [hlabel, String.toList_ofList, List.mem_append, List.mem_singleton] at hd
  rcases hd with hd | rfl
  · exact LetterCase.isLowered_of_isDigit (isDigit_of_mem_numerals hd)
  · exact hletter.isLowered

/-- A label names the seconds of its timeframe. -/
theorem names_label (tf : Timeframe) : Names tf.label tf.secs.toInt := by
  obtain ⟨count, length, c, hletter, hlabel, hproduct⟩ := tf.exists_label_eq
  have hmin : Int64.minValue.toInt ≤ 0 := by decide
  have hword (n : Int) (h : IsInteger tf.label.toList n) : ¬Fits n := by
    rw [hlabel, String.toList_ofList] at h
    have hdigit := h.isDigit_last List.getLast?_concat
    rw [hletter.not_isDigit] at hdigit
    cases hdigit
  have hreads : IsLabel (lowercase tf.label).toList count length := by
    rw [lowercase_label, hlabel, String.toList_ofList]
    exact isLabel_numerals count hletter
  rw [← hproduct]
  exact .label hword hreads ⟨by omega, count_le hletter hproduct⟩

/-- **Every label reads back.** -/
theorem parse?_label (tf : Timeframe) : parse? tf.label = some tf := by
  rw [parse?_eq_some_iff, tf.isTrimmedText_label.trimmed_eq]
  exact tf.names_label

/-- Labels tell timeframes apart. -/
theorem label_inj {tf tf' : Timeframe} : tf.label = tf'.label ↔ tf = tf' := by
  refine ⟨fun h => ?_, congrArg label⟩
  have hparse := tf.parse?_label
  rw [h, parse?_label] at hparse
  exact (Option.some.inj hparse).symm

/-- **Labels round-trip.** Every timeframe is parsed from its label, so that no two have one label,
and every timeframe is read from the document that it is written to. -/
theorem labels_round_trip :
    (∀ tf : Timeframe, parse? tf.label = some tf) ∧ Function.Injective label ∧
      ∀ tf : Timeframe, ofJson? tf.toJson = some tf :=
  ⟨parse?_label, fun _ _ => label_inj.mp, parse?_label⟩

end Timeframe

end ChartLayer
