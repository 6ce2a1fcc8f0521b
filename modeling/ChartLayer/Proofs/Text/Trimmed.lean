import ChartLayer.Json.Basic
import ChartLayer.Number.Reading
import ChartLayer.Text.Blank
import Mathlib.Data.List.DropRight

/-!
# Trimmed texts

Ids and reasons are texts with something in them and without blanks at their ends
(`IsTrimmedText`). Two kinds of text are: a text that was not blank, once it is trimmed
(`isTrimmedText_trimmed`), and the text of a number, which holds no blank at all
(`isTrimmedText_numberText`).
-/

namespace ChartLayer

/-- A text that is not empty and has no blanks at its ends. -/
structure IsTrimmedText (s : String) : Prop where
  nonempty : s ≠ ""
  trimmed_eq : trimmed s = s

/-! ## Trimming -/

/-- Blanks are taken away in front, and then behind. -/
theorem toList_trimmed (s : String) :
    (trimmed s).toList = (s.toList.dropWhile isBlank).rdropWhile isBlank := by
  rw [trimmed, String.toList_ofList]
  rfl

/-- What begins a list without blanks in front has none in front. -/
theorem dropWhile_eq_self_of_prefix {α : Type} {p : α → Bool} {front l : List α}
    (hfront : front <+: l) (hl : l.dropWhile p = l) : front.dropWhile p = front := by
  cases front with
  | nil => rfl
  | cons a rest =>
    obtain ⟨behind, rfl⟩ := hfront
    cases ha : p a with
    | false => rw [List.dropWhile_cons_of_neg (by rw [ha]; exact Bool.false_ne_true)]
    | true =>
      exfalso
      rw [List.cons_append, List.dropWhile_cons_of_pos ha] at hl
      have hle := (List.dropWhile_sublist p (l := rest ++ behind)).length_le
      rw [hl, List.length_cons] at hle
      omega

theorem trimmed_trimmed (s : String) : trimmed (trimmed s) = trimmed s := by
  apply String.toList_injective
  have hfront : ((s.toList.dropWhile isBlank).rdropWhile isBlank).dropWhile isBlank =
      (s.toList.dropWhile isBlank).rdropWhile isBlank :=
    dropWhile_eq_self_of_prefix (List.rdropWhile_prefix isBlank _) (List.dropWhile_idempotent _ _)
  rw [toList_trimmed, toList_trimmed, hfront, List.rdropWhile_idempotent]

theorem dropWhile_eq_self_iff_head? {α : Type} {p : α → Bool} {l : List α} :
    l.dropWhile p = l ↔ ∀ a ∈ l.head?, p a = false := by
  cases l with
  | nil => exact ⟨fun _ _ ha => (nomatch ha), fun _ => rfl⟩
  | cons a rest => simp [List.dropWhile_eq_self_iff]

/-- Only blanks at the ends are taken away. -/
theorem trimmed_eq_self_iff {s : String} :
    trimmed s = s ↔ (∀ c ∈ s.toList.head?, isBlank c = false) ∧
      ∀ c ∈ s.toList.getLast?, isBlank c = false := by
  have hback (l : List Char) : l.rdropWhile isBlank = l ↔ ∀ c ∈ l.getLast?, isBlank c = false := by
    rw [← List.head?_reverse, ← dropWhile_eq_self_iff_head?, List.rdropWhile,
      List.reverse_eq_iff]
  rw [← String.toList_inj, toList_trimmed]
  constructor
  · intro h
    have hfront : s.toList.dropWhile isBlank = s.toList := by
      refine (List.dropWhile_sublist isBlank).eq_of_length_le ?_
      have hle := (List.rdropWhile_prefix isBlank (s.toList.dropWhile isBlank)).length_le
      rwa [h] at hle
    rw [hfront] at h
    exact ⟨dropWhile_eq_self_iff_head?.mp hfront, (hback _).mp h⟩
  · rintro ⟨hfront, hlast⟩
    rw [dropWhile_eq_self_iff_head?.mpr hfront, (hback _).mpr hlast]

/-- A text that is not blank, trimmed. -/
theorem isTrimmedText_trimmed {s : String} (h : allBlank s = false) :
    IsTrimmedText (trimmed s) := by
  refine ⟨?_, trimmed_trimmed s⟩
  intro hempty
  have hnil : (s.toList.dropWhile isBlank).rdropWhile isBlank = [] := by
    rw [← toList_trimmed, hempty]
    rfl
  have hblank := List.dropWhile_eq_nil_iff.mpr (List.rdropWhile_eq_nil_iff.mp hnil)
  have hfront : s.toList.dropWhile isBlank = [] := by
    rwa [List.dropWhile_idempotent] at hblank
  have hall : allBlank s = true := List.all_eq_true.mpr (List.dropWhile_eq_nil_iff.mp hfront)
  rw [h] at hall
  cases hall

/-! ## Texts without blanks -/

/-- No character of the text is a blank. -/
def Unblank (s : String) : Prop := ∀ c ∈ s.toList, isBlank c = false

instance (s : String) : Decidable (Unblank s) := List.decidableBAll _ s.toList

theorem Unblank.append {s t : String} (hs : Unblank s) (ht : Unblank t) : Unblank (s ++ t) := by
  intro c hc
  rw [String.toList_append] at hc
  rcases List.mem_append.mp hc with hc | hc
  · exact hs c hc
  · exact ht c hc

theorem unblank_ofList {cs : List Char} (h : ∀ c ∈ cs, isBlank c = false) :
    Unblank (String.ofList cs) := by
  intro c hc
  rw [String.toList_ofList] at hc
  exact h c hc

/-- Without blanks there is nothing to trim. -/
theorem Unblank.isTrimmedText {s : String} (h : Unblank s) (hne : s ≠ "") : IsTrimmedText s :=
  ⟨hne, trimmed_eq_self_iff.mpr ⟨fun c hc => h c (List.mem_of_mem_head? hc),
    fun c hc => h c (List.mem_of_mem_getLast? hc)⟩⟩

/-! ## Numbers -/

theorem isBlank_of_isDigit {c : Char} (h : c.isDigit = true) : isBlank c = false :=
  of_isDigit (p := fun c => isBlank c = false) (by decide) h

theorem isBlank_of_mem_numerals {n : Nat} {c : Char} (h : c ∈ Decimal.numerals n) :
    isBlank c = false :=
  isBlank_of_isDigit (Nat.isDigit_of_mem_toDigits (by decide) (by decide) h)

theorem unblank_repr (n : Nat) : Unblank (Nat.repr n) :=
  unblank_ofList fun _ => isBlank_of_mem_numerals

theorem isBlank_of_mem_replicate {n : Nat} {c : Char} (h : c ∈ List.replicate n '0') :
    isBlank c = false := by
  rw [List.eq_of_mem_replicate h]
  decide

namespace Notation

variable {layout : Notation} {ds : List Char}

theorem unblank_position {mark : String} (hmark : Unblank mark)
    (hds : ∀ c ∈ ds, isBlank c = false) (point : Int) : Unblank (position mark ds point) := by
  have hzeros {n : Nat} : ∀ c ∈ List.replicate n '0', isBlank c = false :=
    fun _ => isBlank_of_mem_replicate
  rw [position]
  split
  · refine Unblank.append (by decide) (unblank_ofList fun c hc => ?_)
    exact (List.mem_append.mp hc).elim (hzeros c) (hds c)
  · dsimp only
    split
    · refine (unblank_ofList fun c hc => ?_).append hmark
      exact (List.mem_append.mp hc).elim (hds c) (hzeros c)
    · exact ((unblank_ofList fun c hc => hds c (List.mem_of_mem_take hc)).append (by decide)).append
        (unblank_ofList fun c hc => hds c (List.mem_of_mem_drop hc))

theorem unblank_singleton {c : Char} (h : isBlank c = false) : Unblank (String.singleton c) := by
  intro d hd
  rw [String.toList_singleton, List.mem_singleton] at hd
  rw [hd]
  exact h

theorem unblank_scientific {mark : String} (hmark : Unblank mark)
    (hds : ∀ c ∈ ds, isBlank c = false) (point : Int) : Unblank (scientific mark ds point) := by
  have hsign : Unblank (if point - 1 < 0 then "-" else mark) := by
    split
    · decide
    · exact hmark
  have hexponent : Unblank (String.ofList (Decimal.numerals (point - 1).natAbs)) :=
    unblank_ofList fun _ => isBlank_of_mem_numerals
  rw [scientific.eq_def]
  refine Unblank.append (Unblank.append (Unblank.append ?_ (by decide)) hsign) hexponent
  rcases ds with _ | ⟨d, _ | ⟨d', rest⟩⟩
  · exact fun _ h => nomatch h
  · exact unblank_singleton (hds d List.mem_cons_self)
  · exact ((unblank_singleton (hds d List.mem_cons_self)).append (by decide)).append
      (unblank_ofList fun c hc => hds c (List.mem_cons_of_mem d hc))

/-- No notation puts blanks into a number, if its marks hold none. -/
theorem unblank_write (hwhole : Unblank layout.wholeMark) (hplus : Unblank layout.plusMark)
    (x : Float) : Unblank (layout.write x) := by
  have hsign (negative : Bool) : Unblank (if negative then "-" else "") := by
    cases negative <;> decide
  rw [write]
  split
  · decide
  · split <;> decide
  · next negative m e _ =>
    dsimp only
    split
    · exact ((hsign negative).append (by decide)).append hwhole
    · refine (hsign negative).append ?_
      split
      · exact unblank_position hwhole (fun _ => isBlank_of_mem_numerals) _
      · exact unblank_scientific hplus (fun _ => isBlank_of_mem_numerals) _

theorem position_ne_empty (mark : String) (hds : ds ≠ []) (point : Int) :
    position mark ds point ≠ "" := by
  rw [position]
  split
  · simp
  · dsimp only
    split <;> simp [hds]

theorem scientific_ne_empty (mark : String) (ds : List Char) (point : Int) :
    scientific mark ds point ≠ "" := by
  rw [scientific.eq_def]
  simp

theorem write_ne_empty (layout : Notation) (x : Float) : layout.write x ≠ "" := by
  rw [write]
  split
  · decide
  · split <;> decide
  · dsimp only
    split
    · simp
    · rw [Ne, String.append_eq_empty_iff, not_and_or]
      refine Or.inr ?_
      split
      · exact position_ne_empty _ Nat.toDigits_ne_nil _
      · exact scientific_ne_empty _ _ _

end Notation

/-- The text of a number in a document. -/
theorem isTrimmedText_numberText (n : JsonNumber) : IsTrimmedText n.text := by
  cases n with
  | whole n =>
    have hdigits : Nat.repr n.natAbs ≠ "" :=
      mt String.ofList_eq_empty_iff.mp Nat.toDigits_ne_nil
    rw [JsonNumber.text]
    split
    · exact (Unblank.append (by decide) (unblank_repr _)).isTrimmedText (by simp)
    · exact (unblank_repr _).isTrimmedText hdigits
  | real x =>
    exact (Notation.unblank_write (by decide) (by decide) x).isTrimmedText
      (Notation.write_ne_empty _ x)

end ChartLayer
