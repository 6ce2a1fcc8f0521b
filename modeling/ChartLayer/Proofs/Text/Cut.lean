/-!
# Texts cut at places in their bytes

A text is kept in bytes, and a character takes up to four of them. So a place that is counted in
bytes may be inside of a character or behind the end, and then there is no cut (`BadPlace`).

* `textBefore_append`, `textFrom_append`: a cut behind a front parts it from the rest.
* `textBefore_eq_ok_iff`: there are no other cuts.
* `place?_append`: the place where a character is found is behind the front before it.
-/

namespace ChartLayer

/-- A place in the bytes of a text where it cannot be cut. -/
structure BadPlace where
  text : String
  place : Nat
  deriving DecidableEq, Repr

variable {s t : String} {n : Nat}

instance decidableIsValid (s : String) (place : String.Pos.Raw) :
    Decidable (String.Pos.Raw.IsValid s place) :=
  decidable_of_iff _ String.Pos.Raw.isValid_eq_true_iff

/-- The place behind so many bytes, if it is between characters. -/
def placeBehind (s : String) (n : Nat) : Except BadPlace s.Pos :=
  if h : String.Pos.Raw.IsValid s ⟨n⟩ then .ok (s.pos ⟨n⟩ h) else .error ⟨s, n⟩

/-- The first bytes of a text, as a text. -/
def textBefore (s : String) (n : Nat) : Except BadPlace String :=
  (placeBehind s n).map fun p => (s.sliceTo p).copy

/-- A text without its first bytes. -/
def textFrom (s : String) (n : Nat) : Except BadPlace String :=
  (placeBehind s n).map fun p => (s.sliceFrom p).copy

/-- The number of bytes before the first character of a kind. -/
def place? (p : Char → Bool) : List Char → Option Nat
  | [] => none
  | c :: rest => if p c then some 0 else (place? p rest).map (c.utf8Size + ·)

/-! ## Cuts -/

/-- Behind a front there is a place. -/
theorem placeBehind_append (s t : String) :
    ∃ p : (s ++ t).Pos, placeBehind (s ++ t) s.utf8ByteSize = .ok p ∧ p.Splits s t := by
  have hvalid : String.Pos.Raw.IsValid (s ++ t) ⟨s.utf8ByteSize⟩ :=
    String.Pos.Raw.isValid_iff_exists_append.mpr ⟨s, t, rfl, rfl⟩
  exact ⟨(s ++ t).pos _ hvalid, dif_pos hvalid, rfl, rfl⟩

theorem textBefore_append (s t : String) : textBefore (s ++ t) s.utf8ByteSize = .ok s := by
  obtain ⟨p, hplace, hsplits⟩ := placeBehind_append s t
  rw [textBefore, hplace]
  exact congrArg Except.ok hsplits.copy_sliceTo_eq

theorem textFrom_append (s t : String) : textFrom (s ++ t) s.utf8ByteSize = .ok t := by
  obtain ⟨p, hplace, hsplits⟩ := placeBehind_append s t
  rw [textFrom, hplace]
  exact congrArg Except.ok hsplits.copy_sliceFrom_eq

/-- **Cuts.** A text is cut between a front and what is behind it, and nowhere else. -/
theorem textBefore_eq_ok_iff :
    textBefore s n = .ok t ↔ ∃ rest, s = t ++ rest ∧ n = t.utf8ByteSize := by
  constructor
  · intro h
    by_cases hvalid : String.Pos.Raw.IsValid s ⟨n⟩
    · obtain ⟨front, rest, rfl, hn⟩ := String.Pos.Raw.isValid_iff_exists_append.mp hvalid
      cases hn
      change textBefore (front ++ rest) front.utf8ByteSize = .ok t at h
      rw [textBefore_append] at h
      cases h
      exact ⟨rest, rfl, rfl⟩
    · rw [textBefore, placeBehind, dif_neg hvalid] at h
      cases h
  · rintro ⟨rest, rfl, rfl⟩
    exact textBefore_append t rest

example : (textBefore "é" 1).toOption = none := by decide +kernel

/-! ## Places -/

section Place

variable {p : Char → Bool}

theorem utf8ByteSize_ofList_cons (c : Char) (cs : List Char) :
    (String.ofList (c :: cs)).utf8ByteSize = c.utf8Size + (String.ofList cs).utf8ByteSize := by
  rw [← List.singleton_append, String.ofList_append, String.utf8ByteSize_append,
    ← String.singleton_eq_ofList, String.utf8ByteSize_singleton]

theorem place?_eq_none {cs : List Char} (h : ∀ c ∈ cs, p c = false) : place? p cs = none := by
  induction cs with
  | nil => rfl
  | cons c rest ih =>
    rw [place?, h c List.mem_cons_self, if_neg Bool.false_ne_true,
      ih fun d hd => h d (List.mem_cons_of_mem c hd)]
    rfl

/-- **Places.** A character is found behind the front before it. -/
theorem place?_append {front : List Char} {c : Char} (hfront : ∀ d ∈ front, p d = false)
    (hc : p c = true) (rest : List Char) :
    place? p (front ++ c :: rest) = some (String.ofList front).utf8ByteSize := by
  induction front with
  | nil => exact if_pos hc
  | cons d front ih =>
    rw [List.cons_append, place?, hfront d List.mem_cons_self, if_neg Bool.false_ne_true,
      ih fun e he => hfront e (List.mem_cons_of_mem d he), utf8ByteSize_ofList_cons]
    rfl

end Place

end ChartLayer
