import ChartLayer.Surface.Memory

/-!
# Surfaces that refuse and lose

A `LossySurface` gives every handle to one drawing only. Apart from that little can be relied on:
it may refuse any drawing that it is asked for, and in the course of any operation it may lose any
drawings it holds. So what it shows is bounded from above, by what it was told.

* `MemorySurface` is one that never does either.
* `FickleSurface` is one that does whatever its list of fates says.
-/

namespace ChartLayer

/-- The drawing with the given handle, changed. -/
def PlacedDrawing.redrawn (handle : Handle) (drawing : Drawing) (p : PlacedDrawing) :
    PlacedDrawing :=
  if p.handle = handle then { p with drawing } else p

/-- What is not there is not changed. -/
theorem PlacedDrawing.map_redrawn_of_forall_ne {handle : Handle} {placed : List PlacedDrawing}
    (h : ∀ p ∈ placed, p.handle ≠ handle) (drawing : Drawing) :
    placed.map (redrawn handle drawing) = placed := by
  have hid : ∀ p ∈ placed, p.redrawn handle drawing = p := fun p hp => if_neg (h p hp)
  rw [List.map_congr_left hid, List.map_id']

/-- A surface seen by who draws on it. -/
class LossySurface (σ : Type) extends Surface σ where
  /-- The drawings it holds. -/
  shown : σ → List PlacedDrawing
  /-- The handles that it has given out so far. -/
  Issued : σ → Handle → Prop
  /-- The drawings it has refused so far, the latest first. -/
  refusals : σ → List DrawingKey
  draw_some {key : DrawingKey} {drawing : Drawing} {s s' : σ} {handle : Handle} :
    draw key drawing s = (some handle, s') →
      ¬Issued s handle ∧ Issued s' handle ∧ (∀ h, Issued s h → Issued s' h) ∧
        shown s' ⊆ ⟨handle, key, drawing⟩ :: shown s ∧ refusals s' = refusals s
  draw_none {key : DrawingKey} {drawing : Drawing} {s s' : σ} :
    draw key drawing s = (none, s') →
      (∀ h, Issued s h → Issued s' h) ∧ shown s' ⊆ shown s ∧ refusals s' = key :: refusals s
  redraw_true {handle : Handle} {drawing : Drawing} {s s' : σ} :
    redraw handle drawing s = (true, s') →
      (∀ h, Issued s h → Issued s' h) ∧
        shown s' ⊆ (shown s).map (PlacedDrawing.redrawn handle drawing) ∧
        refusals s' = refusals s
  redraw_false {handle : Handle} {drawing : Drawing} {s s' : σ} :
    redraw handle drawing s = (false, s') →
      (∀ h, Issued s h → Issued s' h) ∧ shown s' ⊆ shown s ∧ refusals s' = refusals s
  erase_spec (handle : Handle) (s : σ) :
    (∀ h, Issued s h → Issued (erase handle s) h) ∧
      shown (erase handle s) ⊆ (shown s).filter (fun p => p.handle ≠ handle) ∧
      refusals (erase handle s) = refusals s

/-! ## The surface in memory -/

namespace MemorySurface

theorem redraw_drawings (handle : Handle) (drawing : Drawing) (s : MemorySurface) :
    (s.redraw handle drawing).2.drawings =
      s.drawings.map (PlacedDrawing.redrawn handle drawing) := rfl

/-- What is not drawn is not changed. -/
theorem redraw_of_not_drawn {handle : Handle} {s : MemorySurface} (h : s.isDrawn handle = false)
    (drawing : Drawing) : (s.redraw handle drawing).2.drawings = s.drawings := by
  rw [redraw_drawings]
  refine PlacedDrawing.map_redrawn_of_forall_ne (fun p hp => ?_) drawing
  simpa using List.any_eq_false.mp h p hp

instance : LossySurface MemorySurface where
  shown s := s.drawings
  Issued s handle := handle.number < s.nextHandle
  refusals _ := []
  draw_some {key drawing s s' handle} h := by
    obtain ⟨hhandle, rfl⟩ := Prod.mk.inj h
    cases hhandle
    refine ⟨Nat.lt_irrefl _, Nat.lt_succ_self _, fun h hlt => Nat.lt_succ_of_lt hlt, ?_, rfl⟩
    intro p hp
    rcases List.mem_append.mp hp with hp | hp
    · exact List.mem_cons_of_mem _ hp
    · exact List.mem_singleton.mp hp ▸ List.mem_cons_self
  draw_none h := by cases (Prod.mk.inj h).1
  redraw_true h := by
    obtain ⟨-, rfl⟩ := Prod.mk.inj h
    exact ⟨fun _ hlt => hlt, List.Subset.refl _, rfl⟩
  redraw_false {handle drawing s s'} h := by
    obtain ⟨hdrawn, rfl⟩ := Prod.mk.inj h
    have hkept := redraw_of_not_drawn hdrawn drawing
    exact ⟨fun _ hlt => hlt, fun p hp => hkept ▸ hp, rfl⟩
  erase_spec _ _ := ⟨fun _ hlt => hlt, List.Subset.refl _, rfl⟩

end MemorySurface

/-! ## A fickle surface -/

/-- What goes wrong before an operation. -/
structure Fate where
  lost : List Handle := []
  /-- Whether the operation is refused, if it asks for a new drawing. -/
  refuses : Bool := false
  deriving DecidableEq, Repr

/-- A surface in memory and the fates in store for it, one for each operation on its drawings. When
they are used up, nothing goes wrong any more. -/
structure FickleSurface where
  inner : MemorySurface
  fates : List Fate := []
  refusals : List DrawingKey := []
  deriving DecidableEq, Repr

namespace FickleSurface

/-- Meets the next fate, which may refuse a drawing. -/
def meet (s : FickleSurface) : Bool × FickleSurface :=
  match s.fates with
  | [] => (false, s)
  | fate :: rest =>
    let drawings := s.inner.drawings.filter fun p => p.handle ∉ fate.lost
    (fate.refuses, { s with inner := { s.inner with drawings }, fates := rest })

/-- Changes what lies inside. -/
def update (f : MemorySurface → MemorySurface) (s : FickleSurface) : FickleSurface :=
  { s with inner := f s.inner }

instance : Surface FickleSurface where
  priceMap s := s.inner.priceMap
  askFrame := update .askFrame
  visibleTimes s := s.inner.timeSpan
  showTimes span := update (Surface.showTimes span)
  fitTimes := update .fitTimes
  syncTimeAxis := update Surface.syncTimeAxis
  enablePan enabled := update (Surface.enablePan enabled)
  invalidatePrices := update Surface.invalidatePrices
  showBars bars := update (Surface.showBars bars)
  showBar bar := update (.showBar bar)
  setBadge price := update (Surface.setBadge price)
  draw key drawing s :=
    match s.meet with
    | (true, s) => (none, { s with refusals := key :: s.refusals })
    | (false, s) =>
      let (handle, inner) := s.inner.draw key drawing
      (handle, { s with inner })
  redraw handle drawing s :=
    let (found, inner) := s.meet.2.inner.redraw handle drawing
    (found, { s.meet.2 with inner })
  erase handle s := s.meet.2.update (.erase handle)
  showLabels layout := update (.showLabels layout)
  containerSize s := s.inner.container
  applySize width height := update (Surface.applySize width height)

/-- A fate takes drawings away and leaves the count of handles and the record of refusals. -/
theorem meet_spec (s : FickleSurface) :
    s.meet.2.inner.drawings ⊆ s.inner.drawings ∧
      s.meet.2.inner.nextHandle = s.inner.nextHandle ∧ s.meet.2.refusals = s.refusals := by
  unfold meet
  split
  · exact ⟨List.Subset.refl _, rfl, rfl⟩
  · exact ⟨List.filter_sublist.subset, rfl, rfl⟩

instance : LossySurface FickleSurface where
  shown s := s.inner.drawings
  Issued s handle := handle.number < s.inner.nextHandle
  refusals s := s.refusals
  draw_some {key drawing s s' handle} h := by
    obtain ⟨hshown, hnext, hrefusals⟩ := s.meet_spec
    simp only [Surface.draw] at h
    split at h
    · cases (Prod.mk.inj h).1
    · rename_i met hmet
      obtain ⟨hhandle, rfl⟩ := Prod.mk.inj h
      cases hhandle
      rw [hmet] at hshown hnext hrefusals
      simp only at hshown hnext hrefusals
      refine ⟨?_, Nat.lt_succ_self _, ?_, ?_, hrefusals⟩
      · rw [hnext]; exact Nat.lt_irrefl _
      · intro h hlt
        rw [← hnext] at hlt
        exact Nat.lt_succ_of_lt hlt
      · intro p hp
        rcases List.mem_append.mp hp with hp | hp
        · exact List.mem_cons_of_mem _ (hshown hp)
        · exact List.mem_singleton.mp hp ▸ List.mem_cons_self
  draw_none {key drawing s s'} h := by
    obtain ⟨hshown, hnext, hrefusals⟩ := s.meet_spec
    simp only [Surface.draw] at h
    split at h
    · rename_i met hmet
      obtain ⟨-, rfl⟩ := Prod.mk.inj h
      rw [hmet] at hshown hnext hrefusals
      exact ⟨fun _ hlt => hnext ▸ hlt, hshown, by rw [← hrefusals]⟩
    · cases (Prod.mk.inj h).1
  redraw_true {handle drawing s s'} h := by
    obtain ⟨hshown, hnext, hrefusals⟩ := s.meet_spec
    obtain ⟨-, rfl⟩ := Prod.mk.inj h
    exact ⟨fun _ hlt => hnext ▸ hlt, List.map_subset _ hshown, hrefusals⟩
  redraw_false {handle drawing s s'} h := by
    obtain ⟨hshown, hnext, hrefusals⟩ := s.meet_spec
    obtain ⟨hdrawn, rfl⟩ := Prod.mk.inj h
    have hkept := MemorySurface.redraw_of_not_drawn hdrawn drawing
    exact ⟨fun _ hlt => hnext ▸ hlt, fun p hp => hshown (hkept ▸ hp), hrefusals⟩
  erase_spec handle s := by
    obtain ⟨hshown, hnext, hrefusals⟩ := s.meet_spec
    exact ⟨fun _ hlt => hnext ▸ hlt, List.filter_subset _ hshown, hrefusals⟩

end FickleSurface

end ChartLayer
