import ChartLayer.Proofs.Text.Cut
import ChartLayer.Time.Timeframe
import Mathlib.Data.List.TakeDrop
import Mathlib.Data.List.TakeWhile

/-!
# The parts of labels

A label is split into a number and a name. There are three kinds of texts (`SplitsInto`): those with
a letter in front and nothing but digits behind it, those with something behind their digits, and
digits alone. The same split in bytes takes the letter for one byte, and looks for the byte where
the digits end. Both are places between characters, whatever stands in the text (`splitInBytes_eq`).

* `splitsInto`: how texts are split.
* `splitLabel?_append`: digits are split from a word behind them.
* `splitInBytes_eq`: no cut is inside of a character, and the parts are the same.
-/

namespace ChartLayer.Timeframe

/-- Characters that are all digits. -/
def AllDigits (ds : List Char) : Prop := ∀ d ∈ ds, d.isDigit = true

/-- A label may begin with a letter that has only digits behind it. -/
def LetterFirst (cs : List Char) : Prop :=
  ∃ c ds, cs = c :: ds ∧ c.isAlpha = true ∧ AllDigits ds

theorem not_isAlpha_of_isDigit {c : Char} (h : c.isDigit = true) : c.isAlpha = false :=
  of_isDigit (p := fun c => c.isAlpha = false) (by decide) h

theorem not_letterFirst_of_isDigit {d : Char} (hd : d.isDigit = true) (rest : List Char) :
    ¬LetterFirst (d :: rest) := by
  rintro ⟨c, ds, heq, hc, -⟩
  cases heq
  rw [not_isAlpha_of_isDigit hd] at hc
  cases hc

theorem splitLabel?_of_letter {c : Char} {ds : List Char} (hc : c.isAlpha = true)
    (hds : AllDigits ds) : splitLabel? (c :: ds) = some (ds, [c]) := by
  have hall : (c.isAlpha && ds.all Char.isDigit) = true := by
    rw [hc, List.all_eq_true.mpr hds]
    rfl
  exact if_pos hall

/-- All other texts are split behind their digits. -/
theorem splitLabel?_of_not_letterFirst {cs : List Char} (h : ¬LetterFirst cs) :
    splitLabel? cs = if (cs.dropWhile Char.isDigit).isEmpty then none
      else some (cs.takeWhile Char.isDigit, cs.dropWhile Char.isDigit) := by
  rw [splitLabel?.eq_def, List.span_eq_takeWhile_dropWhile]
  cases cs with
  | nil => rfl
  | cons c ds =>
    refine if_neg fun hall => h ?_
    rw [Bool.and_eq_true, List.all_eq_true] at hall
    exact ⟨c, ds, rfl, hall⟩

theorem splitLabel?_behind_digits {ds : List Char} {c : Char} {rest : List Char}
    (hds : AllDigits ds) (hc : c.isDigit = false) (h : ¬LetterFirst (ds ++ c :: rest)) :
    splitLabel? (ds ++ c :: rest) = some (ds, c :: rest) := by
  have hback : ¬c.isDigit = true := by rw [hc]; exact Bool.false_ne_true
  rw [splitLabel?_of_not_letterFirst h, List.takeWhile_append_of_pos hds,
    List.dropWhile_append_of_pos hds, List.takeWhile_cons_of_neg hback,
    List.dropWhile_cons_of_neg hback, List.append_nil]
  rfl

/-- What a text is split into: there are three kinds of texts. -/
inductive SplitsInto : List Char → Option (List Char × List Char) → Prop
  | letterFirst {c : Char} {ds : List Char} (hc : c.isAlpha = true) (hds : AllDigits ds) :
      SplitsInto (c :: ds) (some (ds, [c]))
  | numberFirst {ds : List Char} {c : Char} {rest : List Char} (hds : AllDigits ds)
      (hc : c.isDigit = false) (hother : ¬LetterFirst (ds ++ c :: rest)) :
      SplitsInto (ds ++ c :: rest) (some (ds, c :: rest))
  | digits {ds : List Char} (hds : AllDigits ds) (hother : ¬LetterFirst ds) : SplitsInto ds none

theorem splitsInto (cs : List Char) : SplitsInto cs (splitLabel? cs) := by
  by_cases hletter : LetterFirst cs
  · obtain ⟨c, ds, rfl, hc, hds⟩ := hletter
    rw [splitLabel?_of_letter hc hds]
    exact .letterFirst hc hds
  · have hparts := List.takeWhile_append_dropWhile (p := Char.isDigit) (l := cs)
    have hds : AllDigits (cs.takeWhile Char.isDigit) := fun _ => List.mem_takeWhile_imp
    have hhead := List.head?_dropWhile_not Char.isDigit cs
    generalize cs.takeWhile Char.isDigit = ds at hparts hds
    generalize cs.dropWhile Char.isDigit = name at hparts hhead
    subst hparts
    cases name with
    | nil =>
      rw [List.append_nil] at hletter ⊢
      rw [splitLabel?_of_not_letterFirst hletter, List.dropWhile_eq_nil_iff.mpr hds]
      exact .digits hds hletter
    | cons c rest =>
      rw [splitLabel?_behind_digits hds hhead hletter]
      exact .numberFirst hds hhead hletter

theorem allDigits_of_splitLabel? {cs ds name : List Char} (h : splitLabel? cs = some (ds, name)) :
    AllDigits ds := by
  have hform := splitsInto cs
  rw [h] at hform
  cases hform <;> assumption

/-- Digits are split from a word without digits. -/
theorem splitLabel?_append {ds name : List Char} (hds : AllDigits ds) (hne : name ≠ [])
    (hname : ∀ c ∈ name, c.isDigit = false) : splitLabel? (ds ++ name) = some (ds, name) := by
  obtain ⟨c, rest, rfl⟩ := List.exists_cons_of_ne_nil hne
  have hc := hname c List.mem_cons_self
  cases ds with
  | cons d ds =>
    exact splitLabel?_behind_digits hds hc (not_letterFirst_of_isDigit (hds d List.mem_cons_self) _)
  | nil =>
    by_cases hletter : LetterFirst (c :: rest)
    · obtain ⟨c, behind, heq, halpha, hbehind⟩ := hletter
      cases heq
      have hnil : rest = [] := List.eq_nil_iff_forall_not_mem.mpr fun d hd => by
        have hdigit := hname d (List.mem_cons_of_mem c hd)
        rw [hbehind d hd] at hdigit
        cases hdigit
      subst hnil
      exact splitLabel?_of_letter halpha hbehind
    · exact splitLabel?_behind_digits hds hc hletter

/-! ## In bytes -/

/-- A text cut behind its digits, if they are not all of it. -/
def cutBehindDigits (s : String) : Except BadPlace (Option (String × String)) :=
  match place? (fun c => !c.isDigit) s.toList with
  | none => .ok none
  | some n => do return some (← textBefore s n, ← textFrom s n)

/-- A label cut into number and name. The first letter is taken to be one byte wide. -/
def splitInBytes (s : String) : Except BadPlace (Option (String × String)) :=
  match s.toList with
  | [] => cutBehindDigits s
  | c :: _ =>
    if c.isAlpha then do
      let behind ← textFrom s 1
      if behind.toList.all Char.isDigit then return some (behind, ← textBefore s 1)
      else cutBehindDigits s
    else cutBehindDigits s

theorem utf8Size_of_isAlpha {c : Char} (h : c.isAlpha = true) : c.utf8Size = 1 := by
  rw [Char.utf8Size_eq_one_iff]
  rcases Bool.or_eq_true_iff.mp h with hupper | hlower
  · exact UInt32.le_trans (of_decide_eq_true hupper).2 (by decide)
  · exact UInt32.le_trans (of_decide_eq_true (Bool.and_eq_true_iff.mp hlower).2) (by decide)

section Letter

variable {c : Char} (hc : c.isAlpha = true) (rest : List Char)

include hc

theorem textFrom_letter : textFrom (String.ofList (c :: rest)) 1 = .ok (String.ofList rest) := by
  have hcut := textFrom_append (String.ofList [c]) (String.ofList rest)
  rwa [← String.ofList_append, ← String.singleton_eq_ofList, String.utf8ByteSize_singleton,
    utf8Size_of_isAlpha hc] at hcut

theorem textBefore_letter : textBefore (String.ofList (c :: rest)) 1 = .ok (String.ofList [c]) := by
  have hcut := textBefore_append (String.ofList [c]) (String.ofList rest)
  rwa [← String.ofList_append, ← String.singleton_eq_ofList, String.utf8ByteSize_singleton,
    utf8Size_of_isAlpha hc, String.singleton_eq_ofList] at hcut

end Letter

theorem cutBehindDigits_eq {ds : List Char} {c : Char} (hds : AllDigits ds)
    (hc : c.isDigit = false) (rest : List Char) :
    cutBehindDigits (String.ofList (ds ++ c :: rest)) =
      .ok (some (String.ofList ds, String.ofList (c :: rest))) := by
  have hplace : place? (fun c => !c.isDigit) (ds ++ c :: rest) =
      some (String.ofList ds).utf8ByteSize :=
    place?_append (fun d hd => by rw [hds d hd]; rfl) (by rw [hc]; rfl) rest
  rw [cutBehindDigits, String.toList_ofList, hplace, String.ofList_append]
  dsimp only
  rw [textBefore_append, textFrom_append]
  rfl

theorem cutBehindDigits_of_digits {ds : List Char} (hds : AllDigits ds) :
    cutBehindDigits (String.ofList ds) = .ok none := by
  have hplace : place? (fun c => !c.isDigit) ds = none :=
    place?_eq_none fun d hd => by rw [hds d hd]; rfl
  rw [cutBehindDigits, String.toList_ofList, hplace]

theorem splitInBytes_of_letter {c : Char} {ds : List Char} (hc : c.isAlpha = true)
    (hds : AllDigits ds) : splitInBytes (String.ofList (c :: ds)) =
      .ok (some (String.ofList ds, String.ofList [c])) := by
  have hall : (String.ofList ds).toList.all Char.isDigit = true := by
    rw [String.toList_ofList]
    exact List.all_eq_true.mpr hds
  rw [splitInBytes, String.toList_ofList]
  dsimp only
  rw [if_pos hc, textFrom_letter hc, textBefore_letter hc]
  exact if_pos hall

/-- Without a letter before digits the text is cut behind its digits. -/
theorem splitInBytes_of_not_letterFirst {cs : List Char} (h : ¬LetterFirst cs) :
    splitInBytes (String.ofList cs) = cutBehindDigits (String.ofList cs) := by
  rw [splitInBytes, String.toList_ofList]
  cases cs with
  | nil => rfl
  | cons c rest =>
    dsimp only
    split
    · next hc =>
      rw [textFrom_letter hc]
      refine if_neg fun hall => h ⟨c, rest, rfl, hc, ?_⟩
      rwa [String.toList_ofList, List.all_eq_true] at hall
    · rfl

/-- **Bytes.** Every text can be cut, into the parts that it has as a list of characters. -/
theorem splitInBytes_eq (s : String) :
    splitInBytes s =
      .ok ((splitLabel? s.toList).map fun (ds, name) => (String.ofList ds, String.ofList name)) := by
  have hform := splitsInto s.toList
  have hback := s.ofList_toList
  generalize splitLabel? s.toList = parts at hform
  generalize s.toList = cs at hform hback
  subst hback
  cases hform with
  | letterFirst hc hds => exact splitInBytes_of_letter hc hds
  | numberFirst hds hc hother =>
    rw [splitInBytes_of_not_letterFirst hother, cutBehindDigits_eq hds hc]
    rfl
  | digits hds hother =>
    rw [splitInBytes_of_not_letterFirst hother, cutBehindDigits_of_digits hds]
    rfl

end ChartLayer.Timeframe
