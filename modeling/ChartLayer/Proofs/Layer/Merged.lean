import ChartLayer.Proofs.Layer.Incremental
import ChartLayer.Proofs.Layer.Reset
import ChartLayer.Proofs.Zone.Provenance
import ChartLayer.Proofs.Zone.Survivors

/-!
# A zone that is merged, and its copies

A zone that is merged takes the place of the first zone of its identity. A delivery may hold an
identity more than once, though, and what it holds besides the first one is spare: it stays, and of
all with one identity the best is shown. So what is shown is what was merged as long as there are no
spare copies, and otherwise only if none of them is better.

* `filter_putZone`: what merging does to the zones of one identity.
* `Content.copies_step`: only a delivery that repeats an identity makes a second copy.
* `merged_zone_or_spare`: what is shown of the identity of a zone that was merged.
* `spare_copy_wins`: a zone that is merged and not shown.
-/

namespace ChartLayer

open Layer (putZone)

/-! ## What zones say -/

/-- Two zones that say the same of their identity, wherever they lie. -/
structure Zone.SaysLike (a b : Zone) : Prop where
  id : a.id = b.id
  state : a.state = b.state
  role : a.role = b.role
  score : a.score = b.score
  strength : a.strength = b.strength
  confidence : a.confidence = b.confidence
  direction : a.direction = b.direction
  kind : a.kind = b.kind
  timeframe : a.timeframe = b.timeframe
  invalidatedTime : a.invalidatedTime = b.invalidatedTime
  why : a.why = b.why

/-- Putting bounds in order, or a zone elsewhere, does not change what it says. -/
theorem Zone.saysLike_moved (z : Zone) (g : Geometry) : (g.applyZone z.ordered).SaysLike z := by
  unfold ordered
  split <;> exact ⟨rfl, rfl, rfl, rfl, rfl, rfl, rfl, rfl, rfl, rfl, rfl⟩

/-! ## The zones of one identity -/

section

variable {zones : List Zone} {id : String}

/-- **Merging.** The zone takes the place of the first one of its identity. -/
theorem filter_putZone (z : Zone) (zones : List Zone) (id : String) :
    (putZone z zones).filter (fun y => y.id = id) =
      if z.id = id then z :: (zones.filter fun y => y.id = id).tail
      else zones.filter fun y => y.id = id := by
  induction zones with
  | nil => by_cases hz : z.id = id <;> simp [putZone, hz]
  | cons first rest ih =>
    unfold putZone
    by_cases hfirst : first.id = z.id
    · rw [if_pos hfirst]
      by_cases hz : z.id = id <;> simp [hfirst, hz]
    · rw [if_neg hfirst, List.filter_cons, List.filter_cons, ih]
      by_cases hz : z.id = id
      · have hother : ¬first.id = id := hz ▸ hfirst
        simp [hz, hother]
      · simp [hz]

theorem finiteZones_cons {z : Zone} (hz : z.hasFiniteBounds = true) (rest : List Zone) :
    finiteZones (z :: rest) = z.ordered :: finiteZones rest := by
  unfold finiteZones
  rw [List.filter_cons_of_pos hz, List.map_cons]

/-- Bounds say nothing about identities. -/
theorem filter_finiteZones (zones : List Zone) (id : String) :
    (finiteZones zones).filter (fun y => y.id = id) =
      finiteZones (zones.filter fun y => y.id = id) := by
  unfold finiteZones
  rw [List.filter_map, List.filter_filter, List.filter_filter]
  refine congrArg (List.map Zone.ordered) (List.filter_congr fun z _ => ?_)
  rw [Function.comp_apply, z.id_ordered, Bool.and_comm]

theorem mem_finiteZones {z : Zone} :
    z ∈ finiteZones zones ↔ ∃ y ∈ zones, y.hasFiniteBounds = true ∧ y.ordered = z := by
  unfold finiteZones
  simp only [List.mem_map, List.mem_filter, and_assoc]

end

/-! ## What is kept -/

/-- What is kept of an identity when a zone was merged: that zone, or a spare copy that comes before
it; and none of the spare copies comes before what is kept. -/
structure Zone.KeptWith (spare : List Zone) (z kept : Zone) : Prop where
  merged_or_better : kept = z ∨ (kept ∈ spare ∧ kept.hasFiniteBounds = true ∧
    survivalOrder kept.ordered z.ordered = .lt)
  best : ∀ other ∈ spare, other.hasFiniteBounds = true →
    (survivalOrder kept.ordered other.ordered).isLE = true

theorem Zone.KeptWith.eq_of_nil {z kept : Zone} (h : z.KeptWith [] kept) : kept = z :=
  h.merged_or_better.resolve_right fun hspare => List.not_mem_nil hspare.1

/-- A survivor is what is kept. -/
theorem exists_keptWith {z survivor : Zone} {spare : List Zone} (hz : z.hasFiniteBounds = true)
    (h : survivor? (finiteZones (z :: spare)) = some survivor) :
    ∃ kept, z.KeptWith spare kept ∧ kept.ordered = survivor := by
  rw [finiteZones_cons hz] at h
  have hbest : ∀ other ∈ spare, other.hasFiniteBounds = true →
      (survivalOrder survivor other.ordered).isLE = true := fun other hother hfinite =>
    isLE_of_survivor? h _ (List.mem_cons_of_mem _ (mem_finiteZones.mpr ⟨other, hother, hfinite, rfl⟩))
  rcases survivor?_cons h with rfl | ⟨hmem, hbefore⟩
  · exact ⟨z, ⟨Or.inl rfl, hbest⟩, rfl⟩
  · obtain ⟨kept, hkept, hfinite, rfl⟩ := mem_finiteZones.mp hmem
    exact ⟨kept, ⟨Or.inr ⟨hkept, hfinite, hbefore⟩, hbest⟩, rfl⟩

namespace Selector

variable {s : Selector} {r : SelectionRequest}

/-- **What is shown of an identity** is the survivor of the zones that carry it, somewhere. -/
theorem survivor_of_shown {y : Zone} (h : y ∈ (s.answer r).1.zones) :
    ∃ kept, survivor? (finiteZones (r.zones.filter fun z => z.id = y.id)) = some kept ∧
      ∃ g : Geometry, y = g.applyZone kept := by
  obtain ⟨kept, htrusted, g, rfl⟩ := moved_of_shown h
  have hkept : kept ∈ uniqueById (finiteZones r.zones) := (SelectionRequest.mem_trusted.mp htrusted).1
  rw [mem_uniqueById, filter_finiteZones] at hkept
  exact ⟨kept, hkept, g, rfl⟩

end Selector

namespace Content

variable {c : Content} {id : String}

/-- The zones of an identity. -/
def copies (c : Content) (id : String) : List Zone := c.zones.filter fun y => y.id = id

/-- **One zone merged.** -/
theorem keptWith_of_shown (hlive : c.disposed = false) {y z : Zone} (hz : z.hasFiniteBounds = true)
    (hy : y ∈ (c.step (.mergeZone z)).selection.zones) (hid : y.id = z.id) :
    ∃ kept, z.KeptWith (c.copies z.id).tail kept ∧ y.SaysLike kept := by
  have hstep : c.step (.mergeZone z) = { c with zones := putZone z c.zones }.refreshed :=
    if_neg (by simp [hlive])
  rw [hstep] at hy
  obtain ⟨survivor, hsurvivor, g, rfl⟩ := Selector.survivor_of_shown
    (r := ⟨putZone z c.zones, c.bars, c.view, c.limit⟩) hy
  rw [hid, filter_putZone, if_pos rfl] at hsurvivor
  obtain ⟨kept, hkept, rfl⟩ := exists_keptWith hz hsurvivor
  exact ⟨kept, hkept, kept.saysLike_moved g⟩

/-- What a command can make of the zones. -/
theorem zones_step_cases (c : Content) (command : Command) :
    (c.step command).zones = c.zones ∨ (c.step command).zones = [] ∨
      (∃ zones, command = .setZones zones ∧ (c.step command).zones = zones) ∨
      ∃ z, command = .mergeZone z ∧ (c.step command).zones = putZone z c.zones := by
  unfold step
  split
  · exact Or.inl rfl
  cases command with
  | setBars bars =>
    change (c.withBars bars).zones = _ ∨ (c.withBars bars).zones = _ ∨ _
    unfold withBars
    dsimp only
    split
    · exact Or.inr (Or.inl rfl)
    · exact Or.inl rfl
  | updateBar bar =>
    left
    change (c.withBar bar).zones = c.zones
    unfold withBar
    split
    · rfl
    · dsimp only
      split <;> rfl
  | previewBar bar =>
    left
    change (c.withPreview bar).zones = c.zones
    unfold withPreview
    split <;> rfl
  | setView view =>
    left
    change (c.withView view).zones = c.zones
    unfold withView
    split <;> rfl
  | setLimit limit =>
    left
    change (c.withLimit limit).zones = c.zones
    unfold withLimit
    split <;> rfl
  | setZones zones => exact Or.inr (Or.inr (Or.inl ⟨zones, rfl, rfl⟩))
  | mergeZone z => exact Or.inr (Or.inr (Or.inr ⟨z, rfl, rfl⟩))
  | dispose => exact Or.inr (Or.inl rfl)
  | _ => exact Or.inl rfl

/-- **One command** makes a second copy only if it delivers one. -/
theorem length_copies_step (h : (c.copies id).length ≤ 1) {command : Command}
    (hdelivery : ∀ zones, command = .setZones zones →
      (zones.filter fun y => y.id = id).length ≤ 1) :
    ((c.step command).copies id).length ≤ 1 := by
  unfold copies at h ⊢
  rcases c.zones_step_cases command with heq | heq | ⟨zones, hcommand, heq⟩ | ⟨z, -, heq⟩ <;> rw [heq]
  · exact h
  · exact Nat.zero_le 1
  · exact hdelivery zones hcommand
  · rw [filter_putZone]
    split
    · rw [List.length_cons, List.length_tail]
      omega
    · exact h

/-- **Any number of commands.** -/
theorem length_copies_run (h : (c.copies id).length ≤ 1) {commands : List Command}
    (hdeliveries : ∀ zones, .setZones zones ∈ commands →
      (zones.filter fun y => y.id = id).length ≤ 1) :
    ((c.run commands).copies id).length ≤ 1 := by
  induction commands generalizing c with
  | nil => exact h
  | cons command rest ih =>
    refine ih (length_copies_step h fun zones hcommand => ?_) fun zones hmem => ?_
    · exact hdeliveries zones (hcommand ▸ List.mem_cons_self)
    · exact hdeliveries zones (List.mem_cons_of_mem _ hmem)

end Content

namespace Layer

variable {σ : Type} [Surface σ] {l : Layer σ}

/-- The zones of an identity that a layer has been given, but for the first one. -/
def spareCopies (l : Layer σ) (id : String) : List Zone := (l.content.copies id).tail

omit [Surface σ] in
theorem spareCopies_eq_nil {id : String} :
    l.spareCopies id = [] ↔ (l.content.copies id).length ≤ 1 := by
  unfold spareCopies
  rw [← List.length_eq_zero_iff, List.length_tail, Nat.sub_eq_zero_iff_le]

/-- Nothing is shown after the end. -/
theorem Reachable.selection_of_disposed (h : Reachable l) (hdisposed : l.disposed = true) :
    l.selection = {} := by
  induction h with
  | create hcreate =>
    rw [eq_fresh_of_create? hcreate] at hdisposed
    cases hdisposed
  | @command l c _ ih =>
    cases hbefore : l.disposed with
    | true =>
      have hselection : (l.step c).selection = l.selection :=
        congrArg Content.selection ((content_step l c).trans (if_pos hbefore))
      exact hselection.trans (ih hbefore)
    | false =>
      rw [step_of_live hbefore] at hdisposed ⊢
      obtain rfl := eq_dispose_of_disposed hbefore hdisposed
      rfl
  | clock now _ ih => exact ih hdisposed
  | surface change _ ih => exact ih hdisposed

theorem Reachable.run (h : Reachable l) (commands : List Command) : Reachable (l.run commands) := by
  induction commands generalizing l with
  | nil => exact h
  | cons c rest ih => exact ih (h.command c)

theorem Reachable.keptWith_of_shown (h : Reachable l) {y z : Zone} (hz : z.hasFiniteBounds = true)
    (hy : y ∈ (l.step (.mergeZone z)).selection.zones) (hid : y.id = z.id) :
    ∃ kept, z.KeptWith (l.spareCopies z.id) kept ∧ y.SaysLike kept := by
  have hselection : (l.step (.mergeZone z)).selection =
      (l.content.step (.mergeZone z)).selection := congrArg Content.selection (content_step l _)
  cases hdisposed : l.disposed with
  | false => exact Content.keptWith_of_shown (c := l.content) hdisposed hz (hselection ▸ hy) hid
  | true =>
    have hstep : l.content.step (.mergeZone z) = l.content := if_pos hdisposed
    rw [hselection, hstep] at hy
    change y ∈ l.selection.zones at hy
    rw [h.selection_of_disposed hdisposed] at hy
    cases hy

/-- **What is shown of a zone that was merged.** In whatever state a layer is, it shows the zone
merged or a spare copy of it that comes before, and no other spare copy comes before what it shows.
A layer without spare copies gets none as long as no delivery repeats the identity, and shows just
what is merged. -/
theorem merged_zone_or_spare (h : Reachable l) {z : Zone} (hz : z.hasFiniteBounds = true) :
    (∀ y ∈ (l.step (.mergeZone z)).selection.zones, y.id = z.id →
      ∃ kept, z.KeptWith (l.spareCopies z.id) kept ∧ y.SaysLike kept) ∧
    (l.spareCopies z.id = [] → ∀ commands,
      (∀ zones, .setZones zones ∈ commands → (zones.filter fun y => y.id = z.id).length ≤ 1) →
        ∀ y ∈ ((l.run commands).step (.mergeZone z)).selection.zones, y.id = z.id →
          y.SaysLike z) := by
  refine ⟨fun y hy hid => h.keptWith_of_shown hz hy hid, ?_⟩
  intro hnone commands hdeliveries y hy hid
  have hstill : (l.run commands).spareCopies z.id = [] := by
    rw [spareCopies_eq_nil, content_run]
    exact Content.length_copies_run (spareCopies_eq_nil.mp hnone) hdeliveries
  obtain ⟨kept, hkept, hsays⟩ := (h.run commands).keptWith_of_shown hz hy hid
  rw [hstill] at hkept
  exact hkept.eq_of_nil ▸ hsays

/-! ## A zone that comes twice -/

/-- A zone in some state. -/
def zoneIn (state : ZoneState) : Zone := { Selector.closedZone "a" 99.0 100.0 with state }

def oneBar : Command := .setBars [⟨900, 100.0, 101.0, 99.0, 100.0, 1.0, true⟩]

/-- A layer that was given two zones of one identity, of which the second is fresh. -/
def givenTwice : Layer MemorySurface :=
  untouched.run [oneBar, .setZones [zoneIn .tested, zoneIn .fresh]]

theorem reachable_givenTwice : Reachable givenTwice := (Reachable.create create?_untouched).run _

/-- The zone shown is the spare copy there, and the one merged if the first one came alone. -/
theorem merged_zone_or_spare_of_givenTwice :
    Reachable givenTwice ∧ (zoneIn .mitigated).hasFiniteBounds = true ∧
      (∃ kept, (zoneIn .mitigated).KeptWith [zoneIn .fresh] kept ∧
        (zoneIn .fresh).SaysLike kept) ∧
      untouched.spareCopies "a" = [] ∧
      ∃ y ∈ ((untouched.run [oneBar, .setZones [zoneIn .tested]]).step
          (.mergeZone (zoneIn .mitigated))).selection.zones,
        y.SaysLike (zoneIn .mitigated) := by
  have hspare : givenTwice.spareCopies "a" = [zoneIn .fresh] := by decide +kernel
  have hfinite : (zoneIn .mitigated).hasFiniteBounds = true := by decide +kernel
  refine ⟨reachable_givenTwice, hfinite, ?_, rfl, zoneIn .mitigated, ?_, ?_⟩
  · rw [← hspare]
    exact (merged_zone_or_spare reachable_givenTwice hfinite).1 (zoneIn .fresh) (by decide +kernel) rfl
  · decide +kernel
  · refine (merged_zone_or_spare (.create create?_untouched) hfinite).2 rfl
      [oneBar, .setZones [zoneIn .tested]] ?_ _ (by decide +kernel) rfl
    intro zones hmem
    rcases List.mem_cons.mp hmem with hbars | hzones
    · cases hbars
    · cases List.mem_singleton.mp hzones
      exact Nat.le_refl 1

/-- **The spare copy wins.** A zone that is merged used up is shown fresh. -/
theorem spare_copy_wins :
    Reachable givenTwice ∧ (zoneIn .mitigated).hasFiniteBounds = true ∧
      ∃ y ∈ (givenTwice.step (.mergeZone (zoneIn .mitigated))).selection.zones,
        y.id = (zoneIn .mitigated).id ∧ y.state ≠ (zoneIn .mitigated).state :=
  ⟨reachable_givenTwice, by decide +kernel, zoneIn .fresh, by decide +kernel, rfl, by decide⟩

end Layer

end ChartLayer
