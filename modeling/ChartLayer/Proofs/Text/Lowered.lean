import ChartLayer.Proofs.Text.Trimmed
import ChartLayer.Text.Lowercase

/-!
# Lower case is final

A text in lower case has no other lower case, although single characters grow into two and a sigma
looks at its neighbours. The reason lies in the data: no range of the lower case mapping leads into
a range from which it leads on (`LowerRange.keepsOutOf`), nor to a blank. That is checked range by
range, and what it means for characters is derived.

* `lowercase_eq_self`, `lowercase_lowercase`: lower case stays, and what becomes of any text does.
* `IsTrimmedText.lowercase`: lower case takes nothing away from the ends of a text, and adds no
  blanks there.
-/

namespace ChartLayer

namespace LetterCase

/-! ## Ranges -/

namespace LowerRange

/-- Whether a code point belongs to the range. -/
def covers (r : LowerRange) (n : Nat) : Bool :=
  r.first ≤ n && n ≤ r.last && (n - r.first) % r.step == 0

/-- Where a code point of the range is led. -/
def target (r : LowerRange) (n : Nat) : Nat := ((n : Int) + r.shift).toNat

/-- Whether the lower case of one range falls between the code points of another, of which it has
every second. -/
def passesBetween (r other : LowerRange) : Bool :=
  (r.step == 2 || r.first == r.last) && other.step == 2
    && (r.target r.first + other.first) % 2 == 1

/-- Whether the lower case of a range keeps out of others, which ascend. -/
def keepsOutOf (r : LowerRange) : List LowerRange → Bool
  | [] => true
  | other :: rest =>
    bif other.last.blt (r.target r.first) then r.keepsOutOf rest
    else (r.target r.last).blt other.first || r.passesBetween other && r.keepsOutOf rest

theorem covers_iff {r : LowerRange} {n : Nat} :
    r.covers n = true ↔ r.first ≤ n ∧ n ≤ r.last ∧ (n - r.first) % r.step = 0 := by
  simp only [covers, Bool.and_eq_true, decide_eq_true_eq, beq_iff_eq, and_assoc]

theorem not_covers_iff {r : LowerRange} {n : Nat} :
    r.covers n = false ↔ ¬(r.first ≤ n ∧ n ≤ r.last ∧ (n - r.first) % r.step = 0) := by
  rw [← covers_iff, Bool.not_eq_true]

variable {r : LowerRange} {n : Nat}

theorem not_covers_of_passesBetween {other : LowerRange} (hleast : 0 ≤ (r.first : Int) + r.shift)
    (h : r.passesBetween other = true) (hn : r.covers n = true) :
    other.covers (r.target n) = false := by
  obtain ⟨hfirst, hlast, hstep⟩ := covers_iff.mp hn
  rw [not_covers_iff]
  rintro ⟨hfirst', hlast', hstep'⟩
  simp only [passesBetween, target, Bool.and_eq_true, Bool.or_eq_true, beq_iff_eq] at h
  simp only [target] at hfirst' hlast' hstep'
  obtain ⟨⟨hsingle, htwo⟩, hodd⟩ := h
  rw [htwo] at hstep'
  obtain hpair | hpoint := hsingle
  · rw [hpair] at hstep
    omega
  · omega

theorem not_covers_of_keepsOutOf {others : List LowerRange}
    (hsorted : others.Pairwise fun a b => a.first ≤ b.first)
    (hleast : 0 ≤ (r.first : Int) + r.shift) (h : r.keepsOutOf others = true)
    (hn : r.covers n = true) : ∀ other ∈ others, other.covers (r.target n) = false := by
  obtain ⟨hfirst, hlast, -⟩ := covers_iff.mp hn
  have hlow : r.target r.first ≤ r.target n := by
    rw [target, target]
    omega
  have hhigh : r.target n ≤ r.target r.last := by
    rw [target, target]
    omega
  induction others with
  | nil => exact fun _ hother => nomatch hother
  | cons other rest ih =>
    obtain ⟨hbehind, hrest⟩ := List.pairwise_cons.mp hsorted
    rw [keepsOutOf] at h
    rw [List.forall_mem_cons]
    cases hbefore : other.last.blt (r.target r.first) with
    | true =>
      rw [hbefore] at h
      rw [Nat.blt_eq] at hbefore
      exact ⟨not_covers_iff.mpr fun hcovers => by omega, ih hrest h⟩
    | false =>
      rw [hbefore, cond_false, Bool.or_eq_true, Nat.blt_eq, Bool.and_eq_true] at h
      rcases h with habove | ⟨hbetween, h⟩
      · refine ⟨not_covers_iff.mpr fun hcovers => by omega, fun later hlater => ?_⟩
        have := hbehind later hlater
        exact not_covers_iff.mpr fun hcovers => by omega
      · exact ⟨not_covers_of_passesBetween hleast hbetween hn, ih hrest h⟩

end LowerRange

/-- What is no letter of a range and yet nowhere to be led: the blanks, dotted capital I, which has
two characters for its lower case, and the code points that are no characters. -/
def otherRanges : List LowerRange :=
  [⟨0x09, 0x0D, 1, 0⟩, ⟨0x20, 0x20, 1, 0⟩, ⟨0x85, 0x85, 1, 0⟩, ⟨0xA0, 0xA0, 1, 0⟩,
    ⟨0x130, 0x130, 1, 0⟩, ⟨0x1680, 0x1680, 1, 0⟩, ⟨0x2000, 0x200A, 1, 0⟩,
    ⟨0x2028, 0x2029, 1, 0⟩, ⟨0x202F, 0x202F, 1, 0⟩, ⟨0x205F, 0x205F, 1, 0⟩,
    ⟨0x3000, 0x3000, 1, 0⟩, ⟨0xD800, 0xDFFF, 1, 0⟩]

/-- A range that leads to characters, and to none that lower case leads on from. -/
def LowerRange.leadsHome (r : LowerRange) : Bool :=
  decide (0 ≤ (r.first : Int) + r.shift) && decide ((r.last : Int) + r.shift < 0x110000)
    && r.keepsOutOf lowerRanges && r.keepsOutOf otherRanges

/-- The data, range by range. -/
theorem leadsHome_lowerRanges : ∀ r ∈ lowerRanges, r.leadsHome = true := by decide +kernel

theorem lowerRanges_ascend : lowerRanges.Pairwise fun a b => a.first ≤ b.first := by
  rw [← List.isChain_iff_pairwise]
  decide +kernel

/-- A code point that lower case leaves alone, and that is a character but no blank. -/
structure IsHome (n : Nat) : Prop where
  letters : ∀ r ∈ lowerRanges, r.covers n = false
  others : ∀ r ∈ otherRanges, r.covers n = false
  below : n < 0x110000

/-- Where a range of the mapping leads. -/
theorem isHome_target {r : LowerRange} (hr : r ∈ lowerRanges) {n : Nat}
    (hn : r.covers n = true) : IsHome (r.target n) := by
  have hhome := leadsHome_lowerRanges r hr
  simp only [LowerRange.leadsHome, Bool.and_eq_true, decide_eq_true_eq] at hhome
  obtain ⟨⟨⟨hleast, hmost⟩, hletters⟩, hothers⟩ := hhome
  obtain ⟨-, hlast, -⟩ := LowerRange.covers_iff.mp hn
  refine ⟨LowerRange.not_covers_of_keepsOutOf lowerRanges_ascend hleast hletters hn,
    LowerRange.not_covers_of_keepsOutOf (by decide) hleast hothers hn, ?_⟩
  rw [LowerRange.target]
  omega

theorem IsHome.isValidChar {n : Nat} (h : IsHome n) : n.isValidChar := by
  have hsurrogates := h.others ⟨0xD800, 0xDFFF, 1, 0⟩ (by simp [otherRanges])
  rw [LowerRange.not_covers_iff] at hsurrogates
  simp only [Nat.mod_one, and_true] at hsurrogates
  have hbelow := h.below
  rw [Nat.isValidChar]
  omega

/-! ## Characters -/

/-- What lower case makes of one character. -/
inductive Lowering (c : Char) : List Char → Prop
  | kept : (∀ r ∈ lowerRanges, r.covers c.toNat = false) → Lowering c [c]
  | dotted : c.toNat = 0x130 → Lowering c ['i', Char.ofNat 0x307]
  | moved {d : Char} {r : LowerRange} :
    r ∈ lowerRanges → r.covers c.toNat = true → IsHome d.toNat → Lowering c [d]

theorem lowering_moved {c : Char} {r : LowerRange} (hr : r ∈ lowerRanges)
    (hcovers : r.covers c.toNat = true) : Lowering c [Char.ofNat (r.target c.toNat)] := by
  have hhome := isHome_target hr hcovers
  have hnat : (Char.ofNat (r.target c.toNat)).toNat = r.target c.toNat := by
    rw [Char.ofNat, dif_pos hhome.isValidChar]
    rfl
  refine .moved hr hcovers ?_
  rwa [hnat]

theorem lowering (c : Char) : Lowering c (lower c) := by
  by_cases hascii : c.toNat < 0x80
  · rw [lower, if_pos hascii]
    by_cases hcapital : 0x41 ≤ c.toNat ∧ c.toNat ≤ 0x5A
    · have hr : (⟨0x41, 0x5A, 1, 32⟩ : LowerRange) ∈ lowerRanges := List.mem_cons_self
      have hlower : c.toLower = Char.ofNat ((c.toNat : Int) + 32).toNat := by
        have hall : ∀ n, n ≤ 0x5A → 0x41 ≤ n →
            (Char.ofNat n).toLower = Char.ofNat ((n : Int) + 32).toNat := by decide
        have hc := hall c.toNat hcapital.2 hcapital.1
        rwa [Char.ofNat_toNat] at hc
      rw [hlower]
      refine lowering_moved hr ?_
      exact LowerRange.covers_iff.mpr ⟨hcapital.1, hcapital.2, Nat.mod_one _⟩
    · have hlower : c.toLower = c := dif_neg hcapital
      rw [hlower]
      refine .kept fun r hr => LowerRange.not_covers_iff.mpr ?_
      rintro ⟨hfirst, hlast, -⟩
      rcases List.mem_cons.mp hr with rfl | hr
      · exact hcapital ⟨hfirst, hlast⟩
      · have hbeyond : ∀ r ∈ lowerRanges.tail, 0x80 ≤ r.first := by decide +kernel
        have := hbeyond r hr
        omega
  · rw [lower, if_neg hascii]
    split
    · next hdotted => exact .dotted hdotted
    · dsimp only
      split
      · next r hfound =>
        have hcovers := List.find?_some hfound
        exact lowering_moved (List.mem_of_find?_eq_some hfound) hcovers
      · next hnone =>
        refine .kept fun r hr => ?_
        rw [← Bool.not_eq_true]
        exact List.find?_eq_none.mp hnone r hr

/-- The character is its own lower case, wherever it stands. -/
structure IsLowered (c : Char) : Prop where
  ne_sigma : c ≠ 'Σ'
  lower_eq : lower c = [c]

instance (c : Char) : Decidable (IsLowered c) :=
  decidable_of_iff (c ≠ 'Σ' ∧ lower c = [c]) ⟨fun h => ⟨h.1, h.2⟩, fun h => ⟨h.1, h.2⟩⟩

/-- What lower case leaves alone stays. -/
theorem IsHome.isLowered {c : Char} (h : IsHome c.toNat) : IsLowered c := by
  constructor
  · rintro rfl
    have hsigma : lowerRanges.any (·.covers 'Σ'.toNat) = true := by decide +kernel
    obtain ⟨r, hr, hcovers⟩ := List.any_eq_true.mp hsigma
    rw [h.letters r hr] at hcovers
    cases hcovers
  · have hstep := lowering c
    generalize lower c = cs at hstep ⊢
    cases hstep with
    | kept => rfl
    | dotted hdotted =>
      have hi := h.others ⟨0x130, 0x130, 1, 0⟩ (by simp [otherRanges])
      rw [hdotted] at hi
      exact absurd hi (by decide)
    | moved hr hcovers =>
      rw [h.letters _ hr] at hcovers
      cases hcovers

theorem IsHome.isBlank {c : Char} (h : IsHome c.toNat) : isBlank c = false := by
  have hothers := h.others
  simp only [otherRanges, List.forall_mem_cons, LowerRange.not_covers_iff, Nat.mod_one,
    and_true] at hothers
  simp only [ChartLayer.isBlank, Bool.or_eq_false_iff, Bool.and_eq_false_iff,
    decide_eq_false_iff_not, beq_eq_false_iff_ne]
  omega

theorem isLowered_of_mem_lower {c d : Char} (hc : c ≠ 'Σ') (hd : d ∈ lower c) : IsLowered d := by
  have hstep := lowering c
  generalize hcs : lower c = cs at hstep hd
  cases hstep with
  | kept =>
    cases List.mem_singleton.mp hd
    exact ⟨hc, hcs⟩
  | dotted =>
    rcases List.mem_pair.mp hd with rfl | rfl <;> decide +kernel
  | moved _ _ hhome =>
    cases List.mem_singleton.mp hd
    exact hhome.isLowered

theorem isBlank_of_mem_lower {c d : Char} (hc : isBlank c = false) (hd : d ∈ lower c) :
    isBlank d = false := by
  have hstep := lowering c
  generalize lower c = cs at hstep hd
  cases hstep with
  | kept =>
    cases List.mem_singleton.mp hd
    exact hc
  | dotted =>
    rcases List.mem_pair.mp hd with rfl | rfl <;> decide
  | moved _ _ hhome =>
    cases List.mem_singleton.mp hd
    exact hhome.isBlank

theorem lower_ne_nil (c : Char) : lower c ≠ [] := by
  have hstep := lowering c
  generalize lower c = cs at hstep ⊢
  cases hstep <;> exact List.cons_ne_nil _ _

theorem isLowered_of_isDigit {c : Char} (h : c.isDigit = true) : IsLowered c :=
  of_isDigit (p := IsLowered) (by decide) h

/-! ## Texts -/

/-- What stands in the place of one character, by its neighbours. -/
def lowerHere (before : List Char) (c : Char) (rest : List Char) : List Char :=
  if c = 'Σ' then [if meetsCased before && !meetsCased rest then 'ς' else 'σ'] else lower c

theorem lowerAfter_cons (before : List Char) (c : Char) (rest : List Char) :
    lowerAfter before (c :: rest) = lowerHere before c rest ++ lowerAfter (c :: before) rest := rfl

theorem isLowered_of_mem_lowerHere {before rest : List Char} {c d : Char}
    (hd : d ∈ lowerHere before c rest) : IsLowered d := by
  rw [lowerHere] at hd
  split at hd
  · have hsigmas : IsLowered 'ς' ∧ IsLowered 'σ' := by decide +kernel
    rw [List.mem_singleton] at hd
    split at hd
    · rw [hd]
      exact hsigmas.1
    · rw [hd]
      exact hsigmas.2
  · next hc => exact isLowered_of_mem_lower hc hd

theorem isBlank_of_mem_lowerHere {before rest : List Char} {c d : Char} (hc : isBlank c = false)
    (hd : d ∈ lowerHere before c rest) : isBlank d = false := by
  rw [lowerHere] at hd
  split at hd
  · rw [List.mem_singleton] at hd
    split at hd <;> rw [hd] <;> decide
  · exact isBlank_of_mem_lower hc hd

theorem lowerHere_ne_nil (before : List Char) (c : Char) (rest : List Char) :
    lowerHere before c rest ≠ [] := by
  rw [lowerHere]
  split
  · exact List.cons_ne_nil _ _
  · exact lower_ne_nil c

theorem isLowered_of_mem_lowerAfter {cs : List Char} {d : Char} :
    ∀ {before : List Char}, d ∈ lowerAfter before cs → IsLowered d := by
  induction cs with
  | nil => intro _ hd; cases hd
  | cons c rest ih =>
    intro before hd
    rw [lowerAfter_cons] at hd
    rcases List.mem_append.mp hd with hd | hd
    · exact isLowered_of_mem_lowerHere hd
    · exact ih hd

theorem lowerAfter_eq_self {cs : List Char} (h : ∀ c ∈ cs, IsLowered c) :
    ∀ before : List Char, lowerAfter before cs = cs := by
  induction cs with
  | nil => intro _; rfl
  | cons c rest ih =>
    intro before
    have hc := h c List.mem_cons_self
    rw [lowerAfter_cons, lowerHere, if_neg hc.ne_sigma, hc.lower_eq,
      ih fun d hd => h d (List.mem_cons_of_mem c hd)]
    rfl

theorem lowerAfter_ne_nil {cs : List Char} (h : cs ≠ []) (before : List Char) :
    lowerAfter before cs ≠ [] := by
  obtain ⟨c, rest, rfl⟩ := List.exists_cons_of_ne_nil h
  rw [lowerAfter_cons]
  exact List.append_ne_nil_of_left_ne_nil (lowerHere_ne_nil before c rest) _

theorem isBlank_head_lowerAfter {cs : List Char} (h : ∀ c ∈ cs.head?, isBlank c = false)
    (before : List Char) : ∀ d ∈ (lowerAfter before cs).head?, isBlank d = false := by
  cases cs with
  | nil => intro _ hd; cases hd
  | cons c rest =>
    intro d hd
    rw [lowerAfter_cons, List.head?_append_of_ne_nil _ (lowerHere_ne_nil before c rest)] at hd
    exact isBlank_of_mem_lowerHere (h c rfl) (List.mem_of_mem_head? hd)

theorem isBlank_last_lowerAfter {cs : List Char} (h : ∀ c ∈ cs.getLast?, isBlank c = false) :
    ∀ before : List Char, ∀ d ∈ (lowerAfter before cs).getLast?, isBlank d = false := by
  induction cs with
  | nil => intro _ _ hd; cases hd
  | cons c rest ih =>
    intro before d hd
    rw [lowerAfter_cons] at hd
    rcases rest with _ | ⟨c', rest⟩
    · rw [lowerAfter, List.append_nil] at hd
      exact isBlank_of_mem_lowerHere (h c rfl) (List.mem_of_mem_getLast? hd)
    · rw [List.getLast?_append_of_ne_nil _ (lowerAfter_ne_nil (List.cons_ne_nil _ _) _)] at hd
      exact ih (fun d hd => h d (by rwa [List.getLast?_cons_cons])) _ d hd

end LetterCase

open LetterCase

theorem lowercase_eq_self {s : String} (h : ∀ c ∈ s.toList, IsLowered c) : lowercase s = s := by
  rw [lowercase, lowerAfter_eq_self h, String.ofList_toList]

/-- **Lower case is final.** -/
theorem lowercase_lowercase (s : String) : lowercase (lowercase s) = lowercase s := by
  refine lowercase_eq_self fun c hc => ?_
  rw [lowercase, String.toList_ofList] at hc
  exact isLowered_of_mem_lowerAfter hc

/-- **Lower case of a trimmed text.** -/
theorem IsTrimmedText.lowercase {s : String} (h : IsTrimmedText s) :
    IsTrimmedText (lowercase s) := by
  obtain ⟨hfront, hback⟩ := trimmed_eq_self_iff.mp h.trimmed_eq
  have hne : s.toList ≠ [] := mt String.toList_eq_nil_iff.mp h.nonempty
  rw [ChartLayer.lowercase]
  constructor
  · exact mt String.ofList_eq_empty_iff.mp (lowerAfter_ne_nil hne [])
  · rw [trimmed_eq_self_iff, String.toList_ofList]
    exact ⟨isBlank_head_lowerAfter hfront [], isBlank_last_lowerAfter hback []⟩

end ChartLayer
