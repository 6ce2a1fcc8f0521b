import ChartLayer.Proofs.Surface.Lossy
import ChartLayer.Surface.Unsteady

/-!
# Surfaces that keep what they draw

A `FaithfulSurface` may refuse any drawing that it is asked for. What it has drawn it keeps, though:
the drawings change in the course of an operation just as they were told to. Between the operations
a drawing may still be lost; what a `LossySurface` loses at any time is bounded from above only.

* `MemorySurface` is one that refuses nothing.
* `Recorded UnsteadySurface` is one that refuses a set of identities.
-/

namespace ChartLayer

/-- A surface whose drawings are what the operations make of them. -/
class FaithfulSurface (σ : Type) extends LossySurface σ where
  shown_draw_some {key : DrawingKey} {drawing : Drawing} {s s' : σ} {handle : Handle} :
    draw key drawing s = (some handle, s') → shown s' = shown s ++ [⟨handle, key, drawing⟩]
  shown_draw_none {key : DrawingKey} {drawing : Drawing} {s s' : σ} :
    draw key drawing s = (none, s') → shown s' = shown s
  redraw_found {handle : Handle} {drawing : Drawing} {s s' : σ} {found : Bool} :
    redraw handle drawing s = (found, s') → (found = true ↔ ∃ p ∈ shown s, p.handle = handle)
  shown_redraw {handle : Handle} {drawing : Drawing} {s s' : σ} {found : Bool} :
    redraw handle drawing s = (found, s') →
      shown s' = (shown s).map (PlacedDrawing.redrawn handle drawing)
  shown_erase (handle : Handle) (s : σ) :
    shown (erase handle s) = (shown s).filter fun p => p.handle ≠ handle

/-- A drawing changed in place keeps its name. -/
@[simp] theorem PlacedDrawing.handle_redrawn (handle : Handle) (drawing : Drawing)
    (p : PlacedDrawing) : (p.redrawn handle drawing).handle = p.handle := by
  unfold redrawn
  split <;> rfl

@[simp] theorem PlacedDrawing.key_redrawn (handle : Handle) (drawing : Drawing)
    (p : PlacedDrawing) : (p.redrawn handle drawing).key = p.key := by
  unfold redrawn
  split <;> rfl

/-! ## The surface in memory -/

theorem MemorySurface.isDrawn_iff {handle : Handle} {s : MemorySurface} :
    s.isDrawn handle = true ↔ ∃ p ∈ s.drawings, p.handle = handle := by
  simp [isDrawn]

instance : FaithfulSurface MemorySurface where
  shown_draw_some h := by
    obtain ⟨hhandle, rfl⟩ := Prod.mk.inj h
    cases hhandle
    rfl
  shown_draw_none h := by cases (Prod.mk.inj h).1
  redraw_found h := by
    obtain ⟨rfl, -⟩ := Prod.mk.inj h
    exact MemorySurface.isDrawn_iff
  shown_redraw h := by
    obtain ⟨-, rfl⟩ := Prod.mk.inj h
    rfl
  shown_erase _ _ := rfl

/-! ## A record of refusals -/

/-- A surface and the drawings that it has refused, the latest first. -/
structure Recorded (σ : Type) where
  surface : σ
  refusals : List DrawingKey := []
  deriving DecidableEq, Repr

namespace Recorded

variable {σ : Type}

/-- Changes the surface itself. -/
def update (f : σ → σ) (s : Recorded σ) : Recorded σ := { s with surface := f s.surface }

variable [Surface σ]

instance : Surface (Recorded σ) where
  priceMap s := Surface.priceMap s.surface
  askFrame := update Surface.askFrame
  visibleTimes s := Surface.visibleTimes s.surface
  showTimes span := update (Surface.showTimes span)
  fitTimes := update Surface.fitTimes
  syncTimeAxis := update Surface.syncTimeAxis
  enablePan enabled := update (Surface.enablePan enabled)
  invalidatePrices := update Surface.invalidatePrices
  showBars bars := update (Surface.showBars bars)
  showBar bar := update (Surface.showBar bar)
  setBadge price := update (Surface.setBadge price)
  draw key drawing s :=
    match Surface.draw key drawing s.surface with
    | (some handle, surface) => (some handle, { s with surface })
    | (none, surface) => (none, { surface, refusals := key :: s.refusals })
  redraw handle drawing s :=
    let (found, surface) := Surface.redraw handle drawing s.surface
    (found, { s with surface })
  erase handle := update (Surface.erase handle)
  showLabels layout := update (Surface.showLabels layout)
  containerSize s := Surface.containerSize s.surface
  applySize width height := update (Surface.applySize width height)

/-- The record tells which drawings were refused and leaves the surface alone. -/
theorem draw_some {key : DrawingKey} {drawing : Drawing} {s s' : Recorded σ} {handle : Handle}
    (h : Surface.draw key drawing s = (some handle, s')) :
    Surface.draw key drawing s.surface = (some handle, s'.surface) ∧ s'.refusals = s.refusals := by
  simp only [Surface.draw] at h
  split at h
  · rename_i hdraw
    obtain ⟨hhandle, rfl⟩ := Prod.mk.inj h
    cases hhandle
    exact ⟨hdraw, rfl⟩
  · cases (Prod.mk.inj h).1

theorem draw_none {key : DrawingKey} {drawing : Drawing} {s s' : Recorded σ}
    (h : Surface.draw key drawing s = (none, s')) :
    Surface.draw key drawing s.surface = (none, s'.surface) ∧
      s'.refusals = key :: s.refusals := by
  simp only [Surface.draw] at h
  split at h
  · cases (Prod.mk.inj h).1
  · rename_i hdraw
    obtain ⟨-, rfl⟩ := Prod.mk.inj h
    exact ⟨hdraw, rfl⟩

theorem redraw_eq {handle : Handle} {drawing : Drawing} {s s' : Recorded σ} {found : Bool}
    (h : Surface.redraw handle drawing s = (found, s')) :
    Surface.redraw handle drawing s.surface = (found, s'.surface) ∧
      s'.refusals = s.refusals := by
  obtain ⟨hfound, rfl⟩ := Prod.mk.inj h
  exact ⟨Prod.ext hfound rfl, rfl⟩

end Recorded

/-- An empty one that refuses nothing so far. -/
def Recorded.unmeasured : Recorded UnsteadySurface := { surface := { inner := .unmeasured } }

/-! ## A surface that refuses some identities -/

namespace UnsteadySurface

variable {key : DrawingKey} {drawing : Drawing} {handle : Handle} {s s' : UnsteadySurface}

/-- Scrolling moves no drawing. -/
theorem drift_inner (s : UnsteadySurface) :
    s.drift.inner.drawings = s.inner.drawings ∧ s.drift.inner.nextHandle = s.inner.nextHandle := by
  unfold drift
  split <;> exact ⟨rfl, rfl⟩

/-- What it does not refuse, it draws behind the others under the next handle. -/
theorem draw_some (h : Surface.draw key drawing s = (some handle, s')) :
    handle = ⟨s.inner.nextHandle⟩ ∧ s'.inner.drawings = s.inner.drawings ++ [⟨handle, key, drawing⟩] ∧
      s'.inner.nextHandle = s.inner.nextHandle + 1 := by
  simp only [Surface.draw] at h
  split at h
  · cases (Prod.mk.inj h).1
  · obtain ⟨hhandle, rfl⟩ := Prod.mk.inj h
    cases hhandle
    obtain ⟨hdrawings, hnext⟩ :=
      drift_inner { s with inner := (s.inner.draw key drawing).2 }
    exact ⟨rfl, hdrawings, hnext⟩

theorem draw_none (h : Surface.draw key drawing s = (none, s')) : s' = s := by
  simp only [Surface.draw] at h
  split at h
  · exact (Prod.mk.inj h).2.symm
  · cases (Prod.mk.inj h).1

theorem redraw_inner {found : Bool} (h : Surface.redraw handle drawing s = (found, s')) :
    found = s.inner.isDrawn handle ∧
      s'.inner.drawings = s.inner.drawings.map (PlacedDrawing.redrawn handle drawing) ∧
      s'.inner.nextHandle = s.inner.nextHandle := by
  obtain ⟨rfl, rfl⟩ := Prod.mk.inj h
  obtain ⟨hdrawings, hnext⟩ := drift_inner { s with inner := (s.inner.redraw handle drawing).2 }
  exact ⟨rfl, hdrawings, hnext⟩

theorem erase_inner (handle : Handle) (s : UnsteadySurface) :
    (Surface.erase handle s).inner.drawings = s.inner.drawings.filter (fun p => p.handle ≠ handle) ∧
      (Surface.erase handle s).inner.nextHandle = s.inner.nextHandle :=
  drift_inner (s.update (.erase handle))

end UnsteadySurface

instance : FaithfulSurface (Recorded UnsteadySurface) where
  shown s := s.surface.inner.drawings
  Issued s handle := handle.number < s.surface.inner.nextHandle
  refusals s := s.refusals
  draw_some h := by
    obtain ⟨hdraw, hrefusals⟩ := Recorded.draw_some h
    obtain ⟨rfl, hdrawings, hnext⟩ := UnsteadySurface.draw_some hdraw
    rw [hdrawings, hnext]
    refine ⟨Nat.lt_irrefl _, Nat.lt_succ_self _, fun _ hlt => Nat.lt_succ_of_lt hlt, ?_, hrefusals⟩
    exact fun p hp => by simpa [or_comm] using hp
  draw_none h := by
    obtain ⟨hdraw, hrefusals⟩ := Recorded.draw_none h
    rw [UnsteadySurface.draw_none hdraw]
    exact ⟨fun _ hlt => hlt, List.Subset.refl _, hrefusals⟩
  redraw_true h := by
    obtain ⟨hredraw, hrefusals⟩ := Recorded.redraw_eq h
    obtain ⟨-, hdrawings, hnext⟩ := UnsteadySurface.redraw_inner hredraw
    rw [hdrawings, hnext]
    exact ⟨fun _ hlt => hlt, List.Subset.refl _, hrefusals⟩
  redraw_false {handle drawing s s'} h := by
    obtain ⟨hredraw, hrefusals⟩ := Recorded.redraw_eq h
    obtain ⟨hdrawn, hdrawings, hnext⟩ := UnsteadySurface.redraw_inner hredraw
    have hkept := MemorySurface.redraw_of_not_drawn hdrawn.symm drawing
    rw [MemorySurface.redraw_drawings] at hkept
    rw [hdrawings, hnext, hkept]
    exact ⟨fun _ hlt => hlt, List.Subset.refl _, hrefusals⟩
  erase_spec handle s := by
    obtain ⟨hdrawings, hnext⟩ := UnsteadySurface.erase_inner handle s.surface
    change (∀ h : Handle, h.number < s.surface.inner.nextHandle →
        h.number < (Surface.erase handle s.surface).inner.nextHandle) ∧
      (Surface.erase handle s.surface).inner.drawings ⊆ _ ∧ s.refusals = s.refusals
    rw [hdrawings, hnext]
    exact ⟨fun _ hlt => hlt, List.Subset.refl _, rfl⟩
  shown_draw_some h := (UnsteadySurface.draw_some (Recorded.draw_some h).1).2.1
  shown_draw_none h := by rw [UnsteadySurface.draw_none (Recorded.draw_none h).1]
  redraw_found h := by
    rw [(UnsteadySurface.redraw_inner (Recorded.redraw_eq h).1).1]
    exact MemorySurface.isDrawn_iff
  shown_redraw h := (UnsteadySurface.redraw_inner (Recorded.redraw_eq h).1).2.1
  shown_erase handle s := (UnsteadySurface.erase_inner handle s.surface).1

end ChartLayer
