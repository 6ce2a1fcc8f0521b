import ChartLayer.Surface.Basic

/-!
# The registry of drawings

The `Registry` remembers the handle and the looks of each drawing on the surface. To bring one
family in line with what is wanted, `reconcile` removes what is no longer wanted, leaves what is the
same, changes in place what can be changed, and draws the rest anew. A drawing that the surface has
lost is drawn anew as well.
-/

namespace ChartLayer

/-- A drawing on the surface, as it was last drawn.
mirrors `Entry` -/
structure RegistryEntry where
  handle : Handle
  drawing : Drawing
  deriving DecidableEq, Repr

/-- The drawings on the surface, by key.
mirrors `OverlayLifecycle` -/
structure Registry where
  entries : Std.ExtTreeMap DrawingKey RegistryEntry DrawingKey.order := ∅

/-- What `reconcile` did.
mirrors `DiffReport` -/
structure Changes where
  created : Nat := 0
  updated : Nat := 0
  recreated : Nat := 0
  removed : Nat := 0
  unchanged : Nat := 0
  deriving DecidableEq, Repr

/-- Whether nothing is said to have happened.
mirrors `DiffReport::is_noop` -/
def Changes.isEmpty (r : Changes) : Bool :=
  r.created == 0 && r.updated == 0 && r.recreated == 0 && r.removed == 0

namespace Registry

/-- mirrors `OverlayLifecycle::len` -/
def size (r : Registry) : Nat := r.entries.size

/-- mirrors `OverlayLifecycle::is_empty` -/
def isEmpty (r : Registry) : Bool := r.entries.isEmpty

/-- The keys of one family, in order. -/
def familyKeys (family : DrawingFamily) (r : Registry) : List DrawingKey :=
  r.entries.keys.filter fun k => k.family = family

/-- mirrors `OverlayLifecycle::family_len` -/
def familySize (family : DrawingFamily) (r : Registry) : Nat := (r.familyKeys family).length

/-- mirrors `OverlayLifecycle::handle_of` -/
def handle? (key : DrawingKey) (r : Registry) : Option Handle :=
  r.entries[key]?.map (·.handle)

/-- mirrors `OverlayLifecycle::spec_of` -/
def drawing? (key : DrawingKey) (r : Registry) : Option Drawing :=
  r.entries[key]?.map (·.drawing)

section

variable {σ : Type} [Surface σ]

/-- Asks for a new drawing and remembers it; `false` if the surface refuses.
mirrors `OverlayLifecycle::create` -/
def create (key : DrawingKey) (drawing : Drawing) (r : Registry) (s : σ) :
    Bool × Registry × σ :=
  match Surface.draw key drawing s with
  | (some handle, s) => (true, { r with entries := r.entries.insert key ⟨handle, drawing⟩ }, s)
  | (none, s) => (false, r, s)

/-- Forgets a drawing and takes it off the surface. -/
def remove (key : DrawingKey) (r : Registry) (s : σ) : Registry × σ :=
  match r.entries[key]? with
  | some entry =>
    ({ r with entries := r.entries.erase key }, Surface.erase entry.handle s)
  | none => (r, s)

/-- Registry and surface in the course of a reconciliation. -/
structure Work (σ : Type) where
  registry : Registry
  surface : σ
  report : Changes := {}

/-- Removes one drawing that is no longer wanted. -/
def Work.discard (w : Work σ) (key : DrawingKey) : Work σ :=
  let (registry, surface) := w.registry.remove key w.surface
  { registry, surface, report := { w.report with removed := w.report.removed + 1 } }

/-- Draws one drawing for the first time. -/
def Work.draw (w : Work σ) (key : DrawingKey) (drawing : Drawing) : Work σ :=
  let (accepted, registry, surface) := w.registry.create key drawing w.surface
  let created := if accepted then w.report.created + 1 else w.report.created
  { registry, surface, report := { w.report with created } }

/-- Draws one drawing in the place of the one it had. -/
def Work.redraw (w : Work σ) (key : DrawingKey) (drawing : Drawing) : Work σ :=
  let (registry, surface) := w.registry.remove key w.surface
  let (accepted, registry, surface) := registry.create key drawing surface
  let recreated := if accepted then w.report.recreated + 1 else w.report.recreated
  { registry, surface, report := { w.report with recreated } }

/-- Brings one drawing in line with what is wanted. -/
def Work.settle (w : Work σ) (key : DrawingKey) (drawing : Drawing) : Work σ :=
  match w.registry.entries[key]? with
  | none => w.draw key drawing
  | some entry =>
    if entry.drawing.sameAs drawing then
      { w with report := { w.report with unchanged := w.report.unchanged + 1 } }
    else if entry.drawing.needsNew drawing then w.redraw key drawing
    else
      match Surface.redraw entry.handle drawing w.surface with
      | (true, surface) =>
        let entries := w.registry.entries.insert key ⟨entry.handle, drawing⟩
        { registry := { w.registry with entries }
          surface
          report := { w.report with updated := w.report.updated + 1 } }
      | (false, surface) => { w with surface }.redraw key drawing

/-- Brings the drawings of one family in line, one after the other. -/
def Work.settleAll (family : DrawingFamily) (wanted : List (String × Drawing)) (w : Work σ) :
    Work σ :=
  wanted.foldl (fun w (identity, drawing) => w.settle ⟨family, identity⟩ drawing) w

/-- The keys of a family that are not wanted. -/
def staleKeys (family : DrawingFamily) (desired : DesiredDrawings) (r : Registry) :
    List DrawingKey :=
  (r.familyKeys family).filter fun k => !desired.contains k.identity

/-- Brings one family in line with what is wanted, in the order of the identities.
mirrors `OverlayLifecycle::reconcile` -/
def reconcile (family : DrawingFamily) (desired : DesiredDrawings) (r : Registry) (s : σ) :
    Work σ :=
  let cleared := (r.staleKeys family desired).foldl Work.discard { registry := r, surface := s }
  cleared.settleAll family desired.toList

/-- Removes everything, and counts it.
mirrors `OverlayLifecycle::clear_all` -/
def clearAll (r : Registry) (s : σ) : Nat × Registry × σ :=
  (r.size, {}, r.entries.toList.foldl
    (fun s (_, entry) => Surface.erase entry.handle s) s)

end

end Registry

end ChartLayer
