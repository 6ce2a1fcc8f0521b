import ChartLayer.Proofs.Drawing.Intact
import Mathlib.Data.List.Nodup
import Mathlib.Data.List.Perm.Basic

/-!
# Registry and surface say the same

A surface in memory refuses nothing and loses nothing. There the registry is not just the owner of
all drawings, as on any surface: it lists exactly what is drawn. `Registry.Mirrored` is the
invariant, and `Registry.Lists` says that the registry holds of one family what is wanted there.

* `mirrored_invariant`: a reconciliation keeps registry and surface in line.
* `lists_reconcile`, `Lists.reconcile_of_ne`: it brings its family in line with what is wanted, and
  leaves the other families as they are.
-/

namespace ChartLayer

/-- The same drawing, or one that need not be drawn anew: 0 and -0 are one price. -/
def Drawing.LooksLike (a b : Drawing) : Prop := a = b ∨ a.sameAs b = true

namespace Registry

/-! ## The invariant -/

/-- The registry lists exactly the drawings on the surface. -/
structure Mirrored (r : Registry) (s : MemorySurface) : Prop extends Owned r s where
  drawn : ∀ {k : DrawingKey} {e : RegistryEntry}, r.entries[k]? = some e →
    ⟨e.handle, k, e.drawing⟩ ∈ s.drawings
  handles : (s.drawings.map PlacedDrawing.handle).Nodup

theorem mirrored_empty {s : MemorySurface} (h : s.drawings = []) : Mirrored {} s where
  toOwned := owned_empty h
  drawn he := by simp at he
  handles := by simp [h]

/-- Only the drawings and the next handle matter. -/
theorem Mirrored.of_eq {r : Registry} {s s' : MemorySurface} (h : Mirrored r s)
    (hdrawings : s'.drawings = s.drawings) (hnext : s'.nextHandle = s.nextHandle) :
    Mirrored r s' where
  toOwned := by
    refine h.toOwned.of_subset (fun p hp => ?_) (fun handle hlt => ?_)
    · change p ∈ s'.drawings at hp
      rwa [hdrawings] at hp
    · change handle.number < s'.nextHandle
      rwa [hnext]
  drawn he := hdrawings ▸ h.drawn he
  handles := hdrawings ▸ h.handles

theorem Mirrored.intact {r : Registry} {s : MemorySurface} (h : Mirrored r s) : Intact r s :=
  ⟨h.toOwned, h.drawn⟩

/-- It is what an intact registry is, and no handle is drawn twice. -/
theorem Intact.mirrored {r : Registry} {s : MemorySurface} (h : Intact r s)
    (hhandles : (s.drawings.map PlacedDrawing.handle).Nodup) : Mirrored r s :=
  ⟨h.toOwned, h.drawn, hhandles⟩

theorem Mirrored.remove {r : Registry} {s : MemorySurface} (h : Mirrored r s) (key : DrawingKey) :
    Mirrored (r.remove key s).1 (r.remove key s).2 := by
  refine (h.intact.remove key).mirrored ?_
  unfold Registry.remove
  split
  · exact h.handles.sublist (List.filter_sublist.map _)
  · exact h.handles

theorem Mirrored.create {r : Registry} {s : MemorySurface} (h : Mirrored r s) {key : DrawingKey}
    (drawing : Drawing) (hkey : r.entries[key]? = none) :
    Mirrored (r.create key drawing s).2.1 (r.create key drawing s).2.2 := by
  refine (h.intact.create drawing hkey).mirrored ?_
  let placed : PlacedDrawing := ⟨⟨s.nextHandle⟩, key, drawing⟩
  change ((s.drawings ++ [placed]).map PlacedDrawing.handle).Nodup
  rw [List.map_append, List.map_singleton, ← List.concat_eq_append]
  refine h.handles.concat fun hmem => ?_
  obtain ⟨p, hp, hhandle⟩ := List.mem_map.mp hmem
  have hlt : p.handle.number < s.nextHandle := h.issued (h.owner p hp)
  rw [hhandle] at hlt
  exact Nat.lt_irrefl _ hlt

theorem Mirrored.update {r : Registry} {s s' : MemorySurface} (h : Mirrored r s) {key : DrawingKey}
    {entry : RegistryEntry} {drawing : Drawing} (hkey : r.entries[key]? = some entry)
    (hredraw : Surface.redraw entry.handle drawing s = (true, s')) :
    Mirrored { r with entries := r.entries.insert key ⟨entry.handle, drawing⟩ } s' := by
  refine (h.intact.update hkey hredraw).mirrored ?_
  have hdrawings : s'.drawings = s.drawings.map (PlacedDrawing.redrawn entry.handle drawing) := by
    rw [← MemorySurface.redraw_drawings]
    exact (congrArg (fun result => result.2.drawings) hredraw).symm
  have hsame : PlacedDrawing.handle ∘ PlacedDrawing.redrawn entry.handle drawing =
      PlacedDrawing.handle := funext (PlacedDrawing.handle_redrawn entry.handle drawing)
  rw [hdrawings, List.map_map, hsame]
  exact h.handles

theorem Mirrored.lost {r : Registry} {s s' : MemorySurface} (h : Mirrored r s) {handle : Handle}
    {drawing : Drawing} (hredraw : Surface.redraw handle drawing s = (false, s')) :
    Mirrored r s' := by
  obtain ⟨hdrawn, rfl⟩ := Prod.mk.inj hredraw
  exact h.of_eq (MemorySurface.redraw_of_not_drawn hdrawn drawing) rfl

theorem mirrored_invariant : Invariant Mirrored where
  remove key h := h.remove key
  create drawing h hkey := h.create drawing hkey
  update h hkey hredraw := h.update hkey hredraw
  lost h hredraw := h.lost hredraw

/-! ## What is listed -/

/-- The registry holds of one family exactly what is wanted there. -/
def Lists (family : DrawingFamily) (wanted : DesiredDrawings) (r : Registry) : Prop :=
  ∀ identity : String, Option.Rel (fun drawing entry => entry.drawing.LooksLike drawing)
    wanted[identity]? r.entries[(⟨family, identity⟩ : DrawingKey)]?

theorem lists_empty (family : DrawingFamily) : ({} : Registry).Lists family ∅ := by
  intro identity
  simp only [Std.ExtTreeMap.getElem?_empty]
  exact .none

theorem create_entry (key : DrawingKey) (drawing : Drawing) (r : Registry) (s : MemorySurface) :
    ∃ e, (r.create key drawing s).2.1.entries[key]? = some e ∧ e.drawing.LooksLike drawing := by
  refine ⟨⟨⟨s.nextHandle⟩, drawing⟩, ?_, Or.inl rfl⟩
  change (r.entries.insert key ⟨⟨s.nextHandle⟩, drawing⟩)[key]? = _
  rw [getElem?_insert_entry, if_pos rfl]

/-- What is settled is there, and it looks as it should. -/
theorem Work.settle_entry (w : Work MemorySurface) (key : DrawingKey) (drawing : Drawing) :
    ∃ e, (w.settle key drawing).registry.entries[key]? = some e ∧
      e.drawing.LooksLike drawing := by
  unfold settle
  split
  · exact create_entry key drawing w.registry w.surface
  rename_i entry hentry
  split
  · rename_i hsame
    exact ⟨entry, hentry, Or.inr hsame⟩
  split
  · exact create_entry key drawing _ _
  split
  · refine ⟨⟨entry.handle, drawing⟩, ?_, Or.inl rfl⟩
    rw [getElem?_insert_entry, if_pos rfl]
  · exact create_entry key drawing _ _

theorem Work.settleAll_entry (family : DrawingFamily) {wanted : List (String × Drawing)}
    (hdistinct : (wanted.map Prod.fst).Nodup) {want : String × Drawing} (hmem : want ∈ wanted)
    (w : Work MemorySurface) :
    ∃ e, (w.settleAll family wanted).registry.entries[(⟨family, want.1⟩ : DrawingKey)]? = some e ∧
      e.drawing.LooksLike want.2 := by
  induction wanted generalizing w with
  | nil => cases hmem
  | cons first rest ih =>
    obtain ⟨hfirst, hdistinct⟩ := List.nodup_cons.mp hdistinct
    rcases List.mem_cons.mp hmem with rfl | hmem
    · obtain ⟨e, he, hlooks⟩ := w.settle_entry ⟨family, want.1⟩ want.2
      exact ⟨e, (Work.getElem?_settleAll_of_notMem hfirst family _).trans he, hlooks⟩
    · exact ih hdistinct hmem _

/-- **In line.** After a reconciliation the family is as it is wanted. -/
theorem lists_reconcile (family : DrawingFamily) (desired : DesiredDrawings) (r : Registry)
    (s : MemorySurface) : (r.reconcile family desired s).registry.Lists family desired := by
  intro identity
  cases hwanted : desired[identity]? with
  | none =>
    rw [getElem?_reconcile_of_not_desired (not_mem_of_unwanted hwanted)]
    exact .none
  | some drawing =>
    have hmem : (identity, drawing) ∈ desired.toList :=
      Std.ExtTreeMap.mem_toList_iff_getElem?_eq_some.mpr hwanted
    obtain ⟨e, he, hlooks⟩ := Work.settleAll_entry family (nodup_identities desired) hmem
      ((r.staleKeys family desired).foldl Work.discard { registry := r, surface := s })
    have hentry : (r.reconcile family desired s).registry.entries[
        (⟨family, identity⟩ : DrawingKey)]? = some e := he
    rw [hentry]
    exact .some hlooks

theorem Lists.reconcile_of_ne {family other : DrawingFamily} (hne : other ≠ family)
    {wanted : DesiredDrawings} {r : Registry} (h : r.Lists other wanted) (desired : DesiredDrawings)
    (s : MemorySurface) : (r.reconcile family desired s).registry.Lists other wanted := by
  intro identity
  rw [getElem?_reconcile_of_family_ne hne]
  exact h identity

end Registry

end ChartLayer
