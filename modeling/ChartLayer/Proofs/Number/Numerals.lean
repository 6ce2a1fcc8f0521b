import ChartLayer.Number.Notation
import ChartLayer.Proofs.Number.Integers
import ChartLayer.Time.Timeframe

/-!
# Written integers read back

The numerals of a number are digits and have its value. So the text of a time, numerals behind a
minus or bare, is that time in writing (`isInteger_timeText`). Each time therefore reads back from
its text (`readInt64_timeText`), and two times have different texts.
-/

namespace ChartLayer

open Decimal (numerals)

/-! ## Digits -/

theorem isDigit_of_mem_numerals {n : Nat} {c : Char} (h : c ∈ numerals n) : c.isDigit = true :=
  Nat.isDigit_of_mem_toDigits (by decide) (by decide) h

theorem digitsValue_numerals (n : Nat) : digitsValue (numerals n) = n :=
  Nat.ofDigitChars_toDigits (by decide) (by decide)

theorem isNumeral_numerals (n : Nat) : IsNumeral (numerals n) :=
  ⟨Nat.toDigits_ne_nil, fun _ => isDigit_of_mem_numerals⟩

/-! ## Times -/

theorem timeText_of_neg {t : Time} (h : t.toInt < 0) :
    timeText t = String.ofList ('-' :: numerals t.toInt.natAbs) := by
  rw [timeText, if_pos (Int64.lt_iff_toInt_lt.mpr h)]
  exact String.toList_injective (by simp [Nat.toList_repr, numerals])

theorem timeText_of_nonneg {t : Time} (h : 0 ≤ t.toInt) :
    timeText t = String.ofList (numerals t.toInt.natAbs) := by
  have hnonneg : ¬t < 0 := fun hlt => by
    have := Int64.lt_iff_toInt_lt.mp hlt
    rw [Int64.toInt_zero] at this
    omega
  rw [timeText, if_neg hnonneg]
  rfl

theorem isInteger_timeText (t : Time) : IsInteger (timeText t).toList t.toInt := by
  have hnumeral := isNumeral_numerals t.toInt.natAbs
  by_cases h : t.toInt < 0
  · have hinteger := IsInteger.minus hnumeral
    have hvalue : -(t.toInt.natAbs : Int) = t.toInt := by omega
    rw [digitsValue_numerals, hvalue] at hinteger
    rwa [timeText_of_neg h, String.toList_ofList]
  · have hinteger := IsInteger.bare hnumeral
    have hvalue : (t.toInt.natAbs : Int) = t.toInt := by omega
    rw [digitsValue_numerals, hvalue] at hinteger
    rwa [timeText_of_nonneg (by omega), String.toList_ofList]

/-- **Times.** Every time reads back from its text. -/
theorem readInt64_timeText (t : Time) : readInt64 (timeText t) = .ok t :=
  readInt64_eq_ok_iff.mpr (isInteger_timeText t)

theorem timeText_injective : Function.Injective timeText := by
  intro t u h
  have hread := readInt64_timeText t
  rw [h, readInt64_timeText] at hread
  exact (Except.ok.inj hread).symm

end ChartLayer
