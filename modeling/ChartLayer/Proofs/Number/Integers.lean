import ChartLayer.Number.Reading
import Mathlib.Data.List.Induction

/-!
# The texts that are integers

An integer is written with digits, bare or behind a sign (`IsInteger`). A text is read as an integer
just if it is one in writing, and in range: no part of a number is farther from zero than the whole,
so that the first digit that leads out of range tells that the whole is out of range as well.

* `foldlM_readDigit_eq_ok_iff`: what adding up digits comes to, and when.
* `readInteger_eq_ok_iff`, `readInt64_eq_ok_iff`: what is read, and when.
-/

namespace ChartLayer

/-- Digits, and at least one. -/
structure IsNumeral (ds : List Char) : Prop where
  nonempty : ds ≠ []
  isDigit : ∀ d ∈ ds, d.isDigit = true

/-- An integer in writing: a numeral, bare or behind a sign. -/
inductive IsInteger : List Char → Int → Prop
  | bare {ds : List Char} (h : IsNumeral ds) : IsInteger ds (digitsValue ds)
  | plus {ds : List Char} (h : IsNumeral ds) : IsInteger ('+' :: ds) (digitsValue ds)
  | minus {ds : List Char} (h : IsNumeral ds) : IsInteger ('-' :: ds) (-digitsValue ds)

variable {low high n : Int} {negative : Bool} {s : String}

/-! ## Ranges -/

/-- A number under a sign. -/
def signed (negative : Bool) (k : Nat) : Int := if negative then -(k : Int) else k

@[simp] theorem signed_true (k : Nat) : signed true k = -(k : Int) := rfl

@[simp] theorem signed_false (k : Nat) : signed false k = k := rfl

/-- Whether a number under a sign is in range. -/
structure InRange (low high : Int) (negative : Bool) (k : Nat) : Prop where
  low_le : low ≤ signed negative k
  le_high : signed negative k ≤ high

theorem InRange.mono {j k : Nat} (h : InRange low high negative k)
    (hzero : InRange low high negative 0) (hle : j ≤ k) : InRange low high negative j := by
  obtain ⟨hlow, hhigh⟩ := h
  obtain ⟨hlow', hhigh'⟩ := hzero
  cases negative <;> simp only [signed_true, signed_false] at * <;> constructor <;>
    simp only [signed_true, signed_false] <;> omega

/-! ## Digits -/

theorem digitsValue_concat (ds : List Char) (c : Char) :
    digitsValue (ds ++ [c]) = 10 * digitsValue ds + digitValue c := by
  rw [digitsValue, List.foldl_append]
  rfl

/-- What is left of a test for the range, once the number is on its side of zero. -/
theorem InRange.negative_iff {k : Nat} (hzero : InRange low high true 0) :
    InRange low high true k ↔ low ≤ -(k : Int) := by
  have hhigh := hzero.le_high
  rw [signed_true] at hhigh
  exact ⟨fun h => h.low_le, fun h => ⟨h, by rw [signed_true]; omega⟩⟩

theorem InRange.nonnegative_iff {k : Nat} (hzero : InRange low high false 0) :
    InRange low high false k ↔ (k : Int) ≤ high := by
  have hlow := hzero.low_le
  rw [signed_false] at hlow
  exact ⟨fun h => h.le_high, fun h => ⟨by rw [signed_false]; omega, h⟩⟩

/-- A character is taken if it is a digit and leads to a number in range. -/
theorem readDigit_eq_ok_iff {k : Nat} {c : Char} (hzero : InRange low high negative 0) :
    readDigit low high negative (signed negative k) c = .ok n ↔
      c.isDigit = true ∧ InRange low high negative (10 * k + digitValue c) ∧
        n = signed negative (10 * k + digitValue c) := by
  rw [readDigit]
  cases hc : c.isDigit with
  | false => exact iff_of_false (fun h => by cases h) (fun h => by cases h.1)
  | true =>
    cases negative with
    | true =>
      have hnext : 10 * -(k : Int) - digitValue c = -((10 * k + digitValue c : Nat) : Int) := by
        omega
      rw [hzero.negative_iff, if_neg (by decide), if_pos rfl, signed_true, signed_true, hnext]
      dsimp only
      split
      · exact iff_of_false (fun h => by cases h) (by omega)
      · rw [Except.ok.injEq]
        exact ⟨fun h => ⟨rfl, by omega, h.symm⟩, fun h => h.2.2.symm⟩
    | false =>
      have hnext : 10 * (k : Int) + digitValue c = ((10 * k + digitValue c : Nat) : Int) := by
        omega
      rw [hzero.nonnegative_iff, if_neg (by decide), if_neg Bool.false_ne_true, signed_false,
        signed_false, hnext]
      dsimp only
      split
      · exact iff_of_false (fun h => by cases h) (by omega)
      · rw [Except.ok.injEq]
        exact ⟨fun h => ⟨rfl, by omega, h.symm⟩, fun h => h.2.2.symm⟩

theorem foldlM_concat_eq_ok_iff {ds : List Char} {c : Char} {m : Int} :
    (ds ++ [c]).foldlM (readDigit low high negative) m = .ok n ↔
      ∃ k, ds.foldlM (readDigit low high negative) m = .ok k ∧
        readDigit low high negative k c = .ok n := by
  rw [List.foldlM_append]
  cases ds.foldlM (readDigit low high negative) m with
  | error fault => exact iff_of_false (fun h => by cases h) (fun ⟨_, h, _⟩ => by cases h)
  | ok k =>
    change (readDigit low high negative k c >>= pure) = _ ↔ _
    rw [bind_pure]
    exact ⟨fun h => ⟨k, rfl, h⟩, fun ⟨_, hk, h⟩ => by cases hk; exact h⟩

/-- **Adding up.** Characters add up to a number just if they are digits and the number is in
range. -/
theorem foldlM_readDigit_eq_ok_iff {ds : List Char} (hzero : InRange low high negative 0) :
    ds.foldlM (readDigit low high negative) 0 = .ok n ↔
      (∀ d ∈ ds, d.isDigit = true) ∧ InRange low high negative (digitsValue ds) ∧
        n = signed negative (digitsValue ds) := by
  induction ds using List.reverseRecOn generalizing n with
  | nil =>
    have hvalue : signed negative (digitsValue []) = 0 := by cases negative <;> rfl
    rw [hvalue]
    change Except.ok 0 = .ok n ↔ _
    rw [Except.ok.injEq]
    exact ⟨fun h => ⟨fun d hd => absurd hd List.not_mem_nil, hzero, h.symm⟩, fun h => h.2.2.symm⟩
  | append_singleton ds c ih =>
    rw [foldlM_concat_eq_ok_iff, digitsValue_concat]
    constructor
    · rintro ⟨m, hfront, hlast⟩
      obtain ⟨hds, -, rfl⟩ := ih.mp hfront
      obtain ⟨hc, hrange, hn⟩ := (readDigit_eq_ok_iff hzero).mp hlast
      refine ⟨fun d hd => ?_, hrange, hn⟩
      rcases List.mem_append.mp hd with hd | hd
      · exact hds d hd
      · rwa [List.mem_singleton.mp hd]
    · rintro ⟨hds, hrange, rfl⟩
      have hfront := ih.mpr ⟨fun d hd => hds d (List.mem_append_left [c] hd),
        hrange.mono hzero (by omega), rfl⟩
      have hc := hds c (List.mem_append_right ds List.mem_cons_self)
      exact ⟨_, hfront, (readDigit_eq_ok_iff hzero).mpr ⟨hc, hrange, rfl⟩⟩

/-! ## Signs -/

/-- A character that is no sign is left where it is. -/
theorem splitSign_cons {c : Char} (hminus : c ≠ '-') (hplus : c ≠ '+') (rest : List Char) :
    splitSign (c :: rest) = (false, c :: rest) := by
  rw [splitSign]
  · exact fun _ h => hminus (List.cons.inj h).1
  · exact fun _ h => hplus (List.cons.inj h).1

/-- An integer in writing is told by its sign and its digits. -/
theorem isInteger_iff {cs : List Char} :
    IsInteger cs n ↔
      IsNumeral (splitSign cs).2 ∧ n = signed (splitSign cs).1 (digitsValue (splitSign cs).2) := by
  constructor
  · intro h
    cases h with
    | plus h => exact ⟨h, rfl⟩
    | minus h => exact ⟨h, rfl⟩
    | bare h =>
      obtain ⟨d, rest, rfl⟩ := List.exists_cons_of_ne_nil h.nonempty
      have hd := h.isDigit d List.mem_cons_self
      rw [splitSign_cons (by rintro rfl; cases hd) (by rintro rfl; cases hd)]
      exact ⟨h, rfl⟩
  · rintro ⟨h, rfl⟩
    cases cs with
    | nil => exact absurd rfl h.nonempty
    | cons c rest =>
      by_cases hminus : c = '-'
      · subst hminus
        exact .minus h
      · by_cases hplus : c = '+'
        · subst hplus
          exact .plus h
        · rw [splitSign_cons hminus hplus] at h ⊢
          exact .bare h

theorem IsInteger.unique {cs : List Char} {m : Int} (hm : IsInteger cs m) (hn : IsInteger cs n) :
    m = n :=
  (isInteger_iff.mp hm).2.trans (isInteger_iff.mp hn).2.symm

theorem IsNumeral.isInteger_iff {ds : List Char} (h : IsNumeral ds) :
    IsInteger ds n ↔ n = digitsValue ds :=
  ⟨fun hn => hn.unique (.bare h), fun hn => hn ▸ .bare h⟩

/-- Whatever its sign, an integer ends with a digit. -/
theorem IsInteger.isDigit_last {cs : List Char} {c : Char} (h : IsInteger cs n)
    (hc : c ∈ cs.getLast?) : c.isDigit = true := by
  have hsigned {sign : Char} {ds : List Char} (hds : IsNumeral ds)
      (hc : c ∈ (sign :: ds).getLast?) : c.isDigit = true := by
    obtain ⟨d, rest, rfl⟩ := List.exists_cons_of_ne_nil hds.nonempty
    rw [List.getLast?_cons_cons] at hc
    exact hds.isDigit c (List.mem_of_mem_getLast? hc)
  cases h with
  | bare hds => exact hds.isDigit c (List.mem_of_mem_getLast? hc)
  | plus hds => exact hsigned hds hc
  | minus hds => exact hsigned hds hc

/-- An integer is read from its digits, and there must be one. -/
theorem readInteger_eq (hlow : low < 0) :
    readInteger low high s =
      if (splitSign s.toList).2 = [] then .error (if s.toList = [] then .empty else .badDigit)
      else (splitSign s.toList).2.foldlM (readDigit low high (splitSign s.toList).1) 0 := by
  rw [readInteger]
  cases s.toList with
  | nil => rfl
  | cons c rest =>
    by_cases hminus : c = '-'
    · subst hminus
      cases rest with
      | nil => rfl
      | cons d rest => exact if_pos hlow
    · by_cases hplus : c = '+'
      · subst hplus
        cases rest <;> rfl
      · rw [splitSign_cons hminus hplus, if_neg (List.cons_ne_nil c rest)]
        split
        · next heq => cases heq
        · next heq => exact absurd (List.cons.inj heq).1 hplus
        · next heq => exact absurd (List.cons.inj heq).1 hminus
        · next heq => exact absurd (List.cons.inj heq).1 hplus
        · next heq => exact absurd (List.cons.inj heq).1 hminus
        · rfl

/-- **Integers.** What is read is what is written, if that is in range. -/
theorem readInteger_eq_ok_iff (hlow : low < 0) (hhigh : 0 ≤ high) :
    readInteger low high s = .ok n ↔ IsInteger s.toList n ∧ low ≤ n ∧ n ≤ high := by
  have hzero : InRange low high (splitSign s.toList).1 0 := by
    cases (splitSign s.toList).1 <;> constructor <;> simp only [signed_true, signed_false] <;> omega
  rw [readInteger_eq hlow, isInteger_iff]
  by_cases hnil : (splitSign s.toList).2 = []
  · rw [if_pos hnil]
    exact iff_of_false (fun h => by cases h) (fun h => h.1.1.nonempty hnil)
  · rw [if_neg hnil, foldlM_readDigit_eq_ok_iff hzero]
    constructor
    · rintro ⟨hds, hrange, rfl⟩
      exact ⟨⟨⟨hnil, hds⟩, rfl⟩, hrange.low_le, hrange.le_high⟩
    · rintro ⟨⟨hnumeral, rfl⟩, hle, hge⟩
      exact ⟨hnumeral.isDigit, ⟨hle, hge⟩, rfl⟩

/-- The integers of sixty-four bits. -/
theorem readInt64_eq_ok_iff {t : Int64} : readInt64 s = .ok t ↔ IsInteger s.toList t.toInt := by
  have hmin := t.minValue_le_toInt
  have hmax := t.toInt_le
  have hread : readInteger Int64.minValue.toInt Int64.maxValue.toInt s = .ok t.toInt ↔
      IsInteger s.toList t.toInt := by
    rw [readInteger_eq_ok_iff (by decide) (by decide)]
    exact and_iff_left ⟨hmin, hmax⟩
  rw [← hread, readInt64]
  cases hvalue : readInteger Int64.minValue.toInt Int64.maxValue.toInt s with
  | error fault => exact iff_of_false (fun h => by cases h) (fun h => by cases h)
  | ok n =>
    obtain ⟨-, hle, hge⟩ := (readInteger_eq_ok_iff (by decide) (by decide)).mp hvalue
    have hlimit : Int64.maxValue.toInt = 2 ^ 63 - 1 := by decide
    change Except.ok (Int64.ofInt n) = .ok t ↔ Except.ok n = .ok t.toInt
    rw [Except.ok.injEq, Except.ok.injEq, ← Int64.toInt_inj,
      Int64.toInt_ofInt_of_le hle (by omega)]

end ChartLayer
