import ChartLayer.Proofs.Number.Integers
import ChartLayer.Proofs.Time.LabelParts
import Mathlib.Tactic.SplitIfs

/-!
# The texts that name timeframes

A text names seconds in one of two ways (`Names`): as an integer of sixty-four bits, or else, in
lower case, as a label (`IsLabel`). A label is the letter of a unit before digits, or digits before
any name of a unit, and without digits it counts one unit. A text is parsed to the timeframe of the
seconds that it names, if there is one: a count of sixty-four bits times a unit may be too long.

* `isLabel_iff`: labels are what is split into a number and the name of a unit.
* `ofLabel?_eq_some_iff`, `parse?_eq_some_iff`: what labels and texts are read as.
* `parses_its_grammar`: so a text is parsed by what it names, and by nothing else.
-/

namespace ChartLayer

namespace Timeframe

/-! ## The grammar -/

/-- The letters of the units. -/
def unitLetters : List (Char × Time) :=
  [('s', 1), ('m', 60), ('h', 3600), ('d', 86400), ('w', 604800)]

/-- All names of the units. -/
def unitNames : List (String × Time) :=
  [("s", 1), ("sec", 1), ("secs", 1), ("m", 60), ("min", 60), ("mins", 60),
   ("h", 3600), ("hr", 3600), ("hour", 3600), ("hours", 3600),
   ("d", 86400), ("day", 86400), ("days", 86400),
   ("w", 604800), ("wk", 604800), ("week", 604800), ("weeks", 604800)]

/-- What digits count; without any, one. -/
def countOf (ds : List Char) : Nat := if ds = [] then 1 else digitsValue ds

/-- A label in lower case, with its count and the length of its unit. -/
inductive IsLabel : List Char → Nat → Time → Prop
  | letterFirst {c : Char} {ds : List Char} {unit : Time} (hunit : (c, unit) ∈ unitLetters)
      (hds : AllDigits ds) : IsLabel (c :: ds) (countOf ds) unit
  | numberFirst {name : String} {ds : List Char} {unit : Time}
      (hunit : (name, unit) ∈ unitNames) (hds : AllDigits ds) :
      IsLabel (ds ++ name.toList) (countOf ds) unit

/-- The seconds that a text names. -/
inductive Names (t : String) : Int → Prop
  | seconds {n : Int} (h : IsInteger t.toList n) (hfits : Fits n) : Names t n
  | label {count : Nat} {unit : Time} (hword : ∀ n, IsInteger t.toList n → ¬Fits n)
      (h : IsLabel (lowercase t).toList count unit) (hfits : Fits count) :
      Names t (count * unit.toInt)

/-! ## Units -/

theorem unitSecs?_eq_some_iff {name : String} {unit : Time} :
    unitSecs? name = some unit ↔ (name, unit) ∈ unitNames := by
  constructor
  · intro h
    have hnamed {names : List String} (hall : ∀ n ∈ names, (n, unit) ∈ unitNames)
        (hname : names.contains name = true) : (name, unit) ∈ unitNames :=
      hall name (List.contains_iff_mem.mp hname)
    rw [unitSecs?] at h
    split_ifs at h with hname hname hname hname hname <;> cases h <;>
      exact hnamed (by decide +kernel) hname
  · have hall : ∀ entry ∈ unitNames, unitSecs? entry.1 = some entry.2 := by decide +kernel
    exact hall (name, unit)

/-- The names of units hold letters only. -/
theorem isDigit_of_mem_name {name : String} {unit : Time} (h : (name, unit) ∈ unitNames) :
    name.toList ≠ [] ∧ ∀ c ∈ name.toList, c.isDigit = false := by
  have hall : ∀ entry ∈ unitNames,
      entry.1.toList ≠ [] ∧ entry.1.toList.all (fun c => !c.isDigit) = true := by decide +kernel
  obtain ⟨hne, hletters⟩ := hall (name, unit) h
  refine ⟨hne, fun c hc => ?_⟩
  rw [← Bool.not_eq_true']
  exact List.all_eq_true.mp hletters c hc

theorem unit_pos {name : String} {unit : Time} (h : (name, unit) ∈ unitNames) :
    0 < unit.toInt := by
  have hall : ∀ entry ∈ unitNames, 0 < entry.2.toInt := by decide +kernel
  exact hall (name, unit) h

/-- The letters of the units are their names of one letter. -/
theorem mem_unitLetters_iff {c : Char} {unit : Time} :
    (c, unit) ∈ unitLetters ↔ (String.singleton c, unit) ∈ unitNames := by
  constructor
  · have hall : ∀ entry ∈ unitLetters, (String.singleton entry.1, entry.2) ∈ unitNames := by
      decide +kernel
    exact hall (c, unit)
  · intro h
    have hall : ∀ entry ∈ unitNames, entry.1.toList.length = 1 →
        entry.1.toList.all (fun c => unitLetters.contains (c, entry.2)) = true := by decide +kernel
    have hletter := hall (String.singleton c, unit) h
    rw [String.toList_singleton] at hletter
    exact List.contains_iff_mem.mp (List.all_eq_true.mp (hletter rfl) c List.mem_cons_self)

theorem isAlpha_of_unitLetter {c : Char} {unit : Time} (h : (c, unit) ∈ unitLetters) :
    c.isAlpha = true := by
  have hall : ∀ entry ∈ unitLetters, entry.1.isAlpha = true := by decide
  exact hall (c, unit) h

/-! ## Labels -/

/-- Labels are what is split into a number and the name of a unit. -/
theorem isLabel_iff {cs : List Char} {count : Nat} {unit : Time} :
    IsLabel cs count unit ↔ ∃ ds name, splitLabel? cs = some (ds, name) ∧ AllDigits ds ∧
      count = countOf ds ∧ unitSecs? (String.ofList name) = some unit := by
  constructor
  · rintro (⟨hunit, hds⟩ | ⟨hunit, hds⟩)
    · next c ds =>
      refine ⟨ds, [c], splitLabel?_of_letter (isAlpha_of_unitLetter hunit) hds, hds, rfl, ?_⟩
      rw [← String.singleton_eq_ofList, unitSecs?_eq_some_iff]
      exact mem_unitLetters_iff.mp hunit
    · next name ds =>
      obtain ⟨hne, hname⟩ := isDigit_of_mem_name hunit
      refine ⟨ds, name.toList, splitLabel?_append hds hne hname, hds, rfl, ?_⟩
      rwa [String.ofList_toList, unitSecs?_eq_some_iff]
  · rintro ⟨ds, name, hsplit, -, rfl, hunit⟩
    have hform := splitsInto cs
    rw [hsplit] at hform
    rw [unitSecs?_eq_some_iff] at hunit
    cases hform with
    | letterFirst hc hds =>
      rw [← String.singleton_eq_ofList] at hunit
      exact .letterFirst (mem_unitLetters_iff.mpr hunit) hds
    | numberFirst hds hc =>
      have hlabel := IsLabel.numberFirst hunit hds
      rwa [String.toList_ofList] at hlabel

theorem IsLabel.unique {cs : List Char} {count count' : Nat} {unit unit' : Time}
    (h : IsLabel cs count unit) (h' : IsLabel cs count' unit') : count = count' ∧ unit = unit' := by
  obtain ⟨ds, name, hsplit, -, rfl, hunit⟩ := isLabel_iff.mp h
  obtain ⟨ds', name', hsplit', -, rfl, hunit'⟩ := isLabel_iff.mp h'
  rw [hsplit] at hsplit'
  cases hsplit'
  rw [hunit] at hunit'
  exact ⟨rfl, Option.some.inj hunit'⟩

/-- The count of a label is read from its digits. -/
theorem count_eq_some_iff {ds : List Char} {t : Int64} (hds : AllDigits ds) :
    (if ds.isEmpty then some 1 else (readInt64 (String.ofList ds)).toOption) = some t ↔
      t.toInt = countOf ds := by
  by_cases hnil : ds = []
  · rw [if_pos (List.isEmpty_iff.mpr hnil), countOf, if_pos hnil, Option.some.injEq, eq_comm,
      ← Int64.toInt_inj]
    rfl
  · have hread : readInt64 (String.ofList ds) = .ok t ↔ IsInteger ds t.toInt := by
      rw [readInt64_eq_ok_iff, String.toList_ofList]
    rw [if_neg (mt List.isEmpty_iff.mp hnil), countOf, if_neg hnil,
      ← IsNumeral.isInteger_iff ⟨hnil, hds⟩, ← hread]
    cases readInt64 (String.ofList ds) with
    | error fault => exact iff_of_false (fun h => by cases h) (fun h => by cases h)
    | ok n => rw [Except.toOption, Option.some.injEq, Except.ok.injEq]

theorem product_nonneg {name : String} {unit : Time} (h : unitSecs? name = some unit)
    (count : Nat) : 0 ≤ (count : Int) * unit.toInt :=
  Int.mul_nonneg (Int.natCast_nonneg count) (Int.le_of_lt (unit_pos (unitSecs?_eq_some_iff.mp h)))

/-- A product of units that is no time is none. -/
theorem ofProduct_eq_some_iff {n : Int} {tf : Timeframe} (hn : 0 ≤ n) :
    (if Int64.maxValue.toInt < n then none else ofSecs? (Int64.ofInt n)) = some tf ↔
      n = tf.secs.toInt := by
  have hmin : Int64.minValue.toInt ≤ 0 := by decide
  have hmax : tf.secs.toInt ≤ Int64.maxValue.toInt := tf.secs.toInt_le
  split
  · exact iff_of_false (fun h => by cases h) (by omega)
  · rw [ofSecs?_eq_some_iff, ← Int64.toInt_inj, Fits.toInt_ofInt ⟨by omega, by omega⟩]

/-- What is split is counted and multiplied. -/
theorem ofLabel?_of_split {cs ds name : List Char} (h : splitLabel? cs = some (ds, name)) :
    ofLabel? cs =
      (if ds.isEmpty then some 1 else (readInt64 (String.ofList ds)).toOption).bind fun count =>
        (unitSecs? (String.ofList name)).bind fun unit =>
          if Int64.maxValue.toInt < count.toInt * unit.toInt then none
          else ofSecs? (Int64.ofInt (count.toInt * unit.toInt)) := by
  rw [ofLabel?, h]
  dsimp only [bind, Option.bind]
  cases ds.isEmpty <;> rfl

/-- All positive numbers of sixty-four bits are the seconds of a timeframe. -/
theorem exists_timeframe {n : Int} (hpos : 0 < n) (hmax : n ≤ Int64.maxValue.toInt) :
    ∃ tf : Timeframe, tf.secs.toInt = n := by
  have hmin : Int64.minValue.toInt < 0 := by decide
  have hback : (Int64.ofInt n).toInt = n := Fits.toInt_ofInt ⟨by omega, hmax⟩
  have hpositive : 0 < Int64.ofInt n := by
    rw [Int64.lt_iff_toInt_lt, hback]
    exact hpos
  exact ⟨⟨Int64.ofInt n, hpositive⟩, hback⟩

/-- **Labels are read.** -/
theorem ofLabel?_eq_some_iff {cs : List Char} {tf : Timeframe} :
    ofLabel? cs = some tf ↔ ∃ count unit, IsLabel cs count unit ∧ Fits count ∧
      count * unit.toInt = tf.secs.toInt := by
  simp only [isLabel_iff]
  constructor
  · intro h
    cases hsplit : splitLabel? cs with
    | none =>
      rw [ofLabel?, hsplit] at h
      cases h
    | some parts =>
      obtain ⟨ds, name⟩ := parts
      have hds := allDigits_of_splitLabel? hsplit
      rw [ofLabel?_of_split hsplit] at h
      obtain ⟨t, hcount, h⟩ := Option.bind_eq_some_iff.mp h
      obtain ⟨unit, hunit, h⟩ := Option.bind_eq_some_iff.mp h
      rw [count_eq_some_iff hds] at hcount
      rw [hcount, ofProduct_eq_some_iff (product_nonneg hunit _)] at h
      exact ⟨countOf ds, unit, ⟨ds, name, rfl, hds, rfl, hunit⟩, hcount ▸ fits_toInt t, h⟩
  · rintro ⟨count, unit, ⟨ds, name, hsplit, hds, rfl, hunit⟩, hfits, hproduct⟩
    have hcount := (count_eq_some_iff hds).mpr hfits.toInt_ofInt
    rw [ofLabel?_of_split hsplit, hcount, hunit, Option.bind_some, Option.bind_some,
      hfits.toInt_ofInt, ofProduct_eq_some_iff (product_nonneg hunit _)]
    exact hproduct

/-! ## Texts -/

/-- No text names two lengths. -/
theorem Names.unique {t : String} {m n : Int} (hm : Names t m) (hn : Names t n) : m = n := by
  cases hm with
  | seconds hm hfits =>
    cases hn with
    | seconds hn => exact hm.unique hn
    | label hword => exact absurd hfits (hword _ hm)
  | label hword hlabel =>
    cases hn with
    | seconds hn hfits => exact absurd hfits (hword _ hn)
    | label _ hlabel' =>
      obtain ⟨rfl, rfl⟩ := hlabel.unique hlabel'
      rfl

/-- **Texts.** A text is parsed to the timeframe of the seconds that it names. -/
theorem parse?_eq_some_iff {s : String} {tf : Timeframe} :
    parse? s = some tf ↔ Names (trimmed s) tf.secs.toInt := by
  rw [parse?]
  cases hread : readInt64 (trimmed s) with
  | ok t =>
    have hinteger := readInt64_eq_ok_iff.mp hread
    change ofSecs? t = some tf ↔ _
    rw [ofSecs?_eq_some_iff]
    constructor
    · rintro rfl
      exact .seconds hinteger (fits_toInt tf.secs)
    · intro h
      generalize hn : tf.secs.toInt = n at h
      cases h with
      | seconds h => exact Int64.toInt_inj.mp ((hinteger.unique h).trans hn.symm)
      | label hword => exact absurd (fits_toInt t) (hword _ hinteger)
  | error fault =>
    have hword (n : Int) (h : IsInteger (trimmed s).toList n) : ¬Fits n := by
      intro hfits
      rw [← hfits.toInt_ofInt, ← readInt64_eq_ok_iff, hread] at h
      cases h
    change ofLabel? _ = some tf ↔ _
    rw [ofLabel?_eq_some_iff]
    constructor
    · rintro ⟨count, unit, hlabel, hfits, hproduct⟩
      rw [← hproduct]
      exact .label hword hlabel hfits
    · intro h
      generalize hn : tf.secs.toInt = n at h
      cases h with
      | seconds h hfits => exact absurd hfits (hword _ h)
      | label _ hlabel hfits => exact ⟨_, _, hlabel, hfits, rfl⟩

example : (parse? " Min ").map secs = some 60 := by decide +kernel

/-- A text that names no seconds of a timeframe is not parsed. -/
theorem parse?_eq_none_iff {s : String} :
    parse? s = none ↔ ∀ n, Names (trimmed s) n → n ≤ 0 ∨ Int64.maxValue.toInt < n := by
  rw [Option.eq_none_iff_forall_ne_some]
  constructor
  · intro h n hn
    by_contra hrange
    rw [not_or, Int.not_le, Int.not_lt] at hrange
    obtain ⟨tf, rfl⟩ := exists_timeframe hrange.1 hrange.2
    exact h tf (parse?_eq_some_iff.mpr hn)
  · intro h tf hparse
    have hpos := tf.toInt_secs_pos
    have hmax : tf.secs.toInt ≤ Int64.maxValue.toInt := tf.secs.toInt_le
    have hrange := h _ (parse?_eq_some_iff.mp hparse)
    omega

example : parse? "15250284452472w" = none := by decide +kernel

/-- **The grammar.** Every text names at most one length. It is parsed to the timeframe of that
length, and to none if it names no positive length of sixty-four bits; and its label is only cut
between characters. -/
theorem parses_its_grammar (s : String) :
    (∀ m n, Names (trimmed s) m → Names (trimmed s) n → m = n) ∧
      (∀ tf : Timeframe, parse? s = some tf ↔ Names (trimmed s) tf.secs.toInt) ∧
      (parse? s = none ↔ ∀ n, Names (trimmed s) n → n ≤ 0 ∨ Int64.maxValue.toInt < n) ∧
      splitInBytes (lowercase (trimmed s)) =
        .ok ((splitLabel? (lowercase (trimmed s)).toList).map fun (ds, name) =>
          (String.ofList ds, String.ofList name)) :=
  ⟨fun _ _ => Names.unique, fun _ => parse?_eq_some_iff, parse?_eq_none_iff,
    splitInBytes_eq (lowercase (trimmed s))⟩

end Timeframe

end ChartLayer
