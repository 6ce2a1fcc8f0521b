import ChartLayer.Feed.Zones
import ChartLayer.Proofs.Time.Label

/-!
# The attributes behind an anonymous id

A zone without an id gets one from the digest of a text, in which six attributes stand between bars.
The name of a kind may hold bars itself, but no other attribute does: labels, roles, times and
prices are made of digits, letters, signs and points. So the first bar ends the label and the last
three begin the role, the time and the two bounds, and what is between them is the name of the kind,
whatever it holds (`append_bar_left_inj`, `append_bar_right_inj`).

* `unbarred_label`, `unbarred_tag`, `unbarred_timeText`, `unbarred_writeFixed`: the attributes
  without bars.
* `same_text_iff_same_attributes`: two zones have one text if and only if they agree in all six
  attributes, the bounds as they are rounded.
-/

namespace ChartLayer

/-- No character of the text is a bar. -/
def Unbarred (s : String) : Prop := '|' ∉ s.toList

instance (s : String) : Decidable (Unbarred s) := inferInstanceAs (Decidable ('|' ∉ s.toList))

section Bars

variable {s s' t t' : String}

theorem Unbarred.append (hs : Unbarred s) (ht : Unbarred t) : Unbarred (s ++ t) := by
  rw [Unbarred, String.toList_append, List.mem_append, not_or]
  exact ⟨hs, ht⟩

theorem unbarred_of_isDigit {ds : List Char} (h : ∀ c ∈ ds, c.isDigit = true) :
    Unbarred (String.ofList ds) := by
  rw [Unbarred, String.toList_ofList]
  exact fun hbar => nomatch h _ hbar

/-- What stands before the first of several marks. -/
theorem append_cons_left_inj {α : Type} [DecidableEq α] {mark : α} {a a' b b' : List α}
    (ha : mark ∉ a) (ha' : mark ∉ a') : a ++ mark :: b = a' ++ mark :: b' ↔ a = a' ∧ b = b' := by
  have hbefore {a b : List α} (ha : mark ∉ a) :
      (a ++ mark :: b).takeWhile (· ≠ mark) = a := by
    rw [List.takeWhile_append_of_pos]
    · simp
    · intro c hc
      simp only [ne_eq, decide_eq_true_eq]
      exact fun hmark => ha (hmark ▸ hc)
  constructor
  · intro h
    have hfirst : a = a' := by rw [← hbefore ha (b := b), h, hbefore ha']
    subst hfirst
    exact ⟨rfl, List.cons_injective (List.append_cancel_left h)⟩
  · rintro ⟨rfl, rfl⟩
    rfl

/-- What stands behind the last of several marks. -/
theorem append_cons_right_inj {α : Type} [DecidableEq α] {mark : α} {a a' b b' : List α}
    (hb : mark ∉ b) (hb' : mark ∉ b') : a ++ mark :: b = a' ++ mark :: b' ↔ a = a' ∧ b = b' := by
  have hturned (a b : List α) : (a ++ mark :: b).reverse = b.reverse ++ mark :: a.reverse := by
    rw [List.reverse_append, List.reverse_cons, List.append_assoc]
    rfl
  rw [← List.reverse_inj, hturned, hturned,
    append_cons_left_inj (by rwa [List.mem_reverse]) (by rwa [List.mem_reverse]),
    List.reverse_inj, List.reverse_inj, and_comm]

theorem toList_append_bar (s t : String) : (s ++ "|" ++ t).toList = s.toList ++ '|' :: t.toList := by
  rw [String.toList_append, String.toList_append, List.append_assoc]
  rfl

/-- A text up to its first bar. -/
theorem append_bar_left_inj (hs : Unbarred s) (hs' : Unbarred s') :
    s ++ "|" ++ t = s' ++ "|" ++ t' ↔ s = s' ∧ t = t' := by
  simp only [← String.toList_inj, toList_append_bar]
  exact append_cons_left_inj hs hs'

/-- A text from its last bar. -/
theorem append_bar_right_inj (ht : Unbarred t) (ht' : Unbarred t') :
    s ++ "|" ++ t = s' ++ "|" ++ t' ↔ s = s' ∧ t = t' := by
  simp only [← String.toList_inj, toList_append_bar]
  exact append_cons_right_inj ht ht'

end Bars

/-! ## Attributes without bars -/

open Decimal (numerals)

theorem unbarred_numerals (n : Nat) : Unbarred (String.ofList (numerals n)) :=
  unbarred_of_isDigit fun _ => isDigit_of_mem_numerals

theorem unbarred_label (tf : Timeframe) : Unbarred tf.label := by
  obtain ⟨count, length, c, hletter, hlabel, -⟩ := tf.exists_label_eq
  rw [hlabel, String.ofList_append]
  refine (unbarred_numerals count).append ?_
  rw [Unbarred, String.toList_ofList, List.mem_singleton]
  rintro rfl
  have hunknown : Timeframe.unitSecs? (String.ofList ['|']) = none := by decide +kernel
  cases hunknown.symm.trans hletter.unitSecs_eq

theorem unbarred_tag (role : ZoneRole) : Unbarred role.tag := by
  cases role <;> decide

theorem tag_inj {role role' : ZoneRole} : role.tag = role'.tag ↔ role = role' := by
  cases role <;> cases role' <;> decide

theorem unbarred_timeText (t : Time) : Unbarred (timeText t) := by
  refine Unbarred.append ?_ (unbarred_numerals _)
  split <;> decide

theorem unbarred_writeFixed (places : Nat) (x : Float) : Unbarred (writeFixed places x) := by
  rw [writeFixed]
  split
  · decide
  · split <;> decide
  · next negative m e _ =>
    dsimp only
    generalize divNearestEven (m * tenPow places * twoPow e.toNat) (twoPow (-e).toNat) = scaled
    have hpadded : ∀ c ∈ List.replicate (places + 1 - (numerals scaled).length) '0'
        ++ numerals scaled, c.isDigit = true := by
      intro c hc
      rcases List.mem_append.mp hc with hc | hc
      · rw [List.eq_of_mem_replicate hc]
        rfl
      · exact isDigit_of_mem_numerals hc
    generalize List.replicate _ '0' ++ numerals scaled = padded at hpadded ⊢
    refine (Unbarred.append ?_ ?_).append ?_
    · split <;> decide
    · exact unbarred_of_isDigit fun c hc => hpadded c (List.mem_of_mem_take hc)
    · split
      · decide
      · exact Unbarred.append (by decide)
          (unbarred_of_isDigit fun c hc => hpadded c (List.mem_of_mem_drop hc))

namespace Feed

/-- **The text of a zone tells its attributes.** -/
theorem same_text_iff_same_attributes (places : Nat) (tf tf' : Timeframe) (kind kind' : ZoneKind)
    (role role' : ZoneRole) (origin origin' : Time) (min max min' max' : Float) :
    identityText tf kind role origin min max places =
        identityText tf' kind' role' origin' min' max' places ↔
      tf = tf' ∧ kind.name = kind'.name ∧ role = role' ∧ origin = origin' ∧
        writeFixed places min = writeFixed places min' ∧
        writeFixed places max = writeFixed places max' := by
  rw [identityText, identityText,
    append_bar_right_inj (unbarred_writeFixed places max) (unbarred_writeFixed places max'),
    append_bar_right_inj (unbarred_writeFixed places min) (unbarred_writeFixed places min'),
    append_bar_right_inj (unbarred_timeText origin) (unbarred_timeText origin'),
    append_bar_right_inj (unbarred_tag role) (unbarred_tag role'),
    append_bar_left_inj (unbarred_label tf) (unbarred_label tf'),
    Timeframe.label_inj, tag_inj, timeText_injective.eq_iff]
  simp only [and_assoc]

end Feed

end ChartLayer
