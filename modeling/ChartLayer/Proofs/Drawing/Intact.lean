import ChartLayer.Proofs.Drawing.Ownership
import ChartLayer.Proofs.Surface.Faithful

/-!
# A surface that has lost nothing

The registry owns all that the surface shows. When the surface has lost nothing, the converse holds
as well, and `Registry.Intact` says so: what is in the registry is shown, under its key and with its
looks.

* `intact_of_held`: it is enough that the surface still knows the handles.
* `intact_invariant`: a faithful surface loses nothing in a reconciliation, even if it refuses.
-/

namespace ChartLayer.Registry

open LossySurface (shown Issued)

variable {σ : Type}

/-- What the registry lists is what the surface shows. -/
structure Intact [LossySurface σ] (r : Registry) (s : σ) : Prop extends Owned r s where
  drawn : ∀ {k : DrawingKey} {e : RegistryEntry}, r.entries[k]? = some e →
    ⟨e.handle, k, e.drawing⟩ ∈ shown s

section

variable [LossySurface σ]

theorem intact_of_held {r : Registry} {s : σ} (h : Owned r s)
    (hheld : ∀ (k : DrawingKey) (e : RegistryEntry), r.entries[k]? = some e →
      ∃ p ∈ shown s, p.handle = e.handle) : Intact r s where
  toOwned := h
  drawn {k e} hentry := by
    obtain ⟨p, hp, hhandle⟩ := hheld k e hentry
    exact h.eq_of_handle hentry hp hhandle ▸ hp

end

section

variable [FaithfulSurface σ] {r : Registry} {s : σ} {key : DrawingKey}

theorem Intact.remove (h : Intact r s) (key : DrawingKey) :
    Intact (r.remove key s).1 (r.remove key s).2 := by
  refine ⟨h.toOwned.remove key, fun {k e} hentry => ?_⟩
  rw [getElem?_remove] at hentry
  split at hentry
  · cases hentry
  rename_i hne
  cases hkey : r.entries[key]? with
  | none =>
    rw [remove_of_none hkey]
    exact h.drawn hentry
  | some entry =>
    rw [remove_of_entry hkey, FaithfulSurface.shown_erase]
    refine List.mem_filter.mpr ⟨h.drawn hentry, decide_eq_true fun hhandle => ?_⟩
    exact hne (h.distinct hkey hentry hhandle.symm)

theorem Intact.create (h : Intact r s) (drawing : Drawing) (hkey : r.entries[key]? = none) :
    Intact (r.create key drawing s).2.1 (r.create key drawing s).2.2 := by
  refine ⟨h.toOwned.create drawing hkey, ?_⟩
  unfold Registry.create
  split
  · rename_i handle s' hdraw
    intro k e hentry
    rw [getElem?_insert_entry] at hentry
    rw [FaithfulSurface.shown_draw_some hdraw]
    split at hentry
    · rename_i hk
      cases hentry
      subst hk
      exact List.mem_append_right _ List.mem_cons_self
    · exact List.mem_append_left _ (h.drawn hentry)
  · rename_i s' hdraw
    rw [FaithfulSurface.shown_draw_none hdraw]
    exact h.drawn

theorem Intact.update (h : Intact r s) {entry : RegistryEntry} {drawing : Drawing} {s' : σ}
    (hkey : r.entries[key]? = some entry)
    (hredraw : Surface.redraw entry.handle drawing s = (true, s')) :
    Intact { r with entries := r.entries.insert key ⟨entry.handle, drawing⟩ } s' := by
  refine ⟨h.toOwned.update hkey hredraw, fun {k e} hentry => ?_⟩
  rw [FaithfulSurface.shown_redraw hredraw, List.mem_map]
  rw [getElem?_insert_entry] at hentry
  split at hentry
  · rename_i hk
    cases hentry
    subst hk
    exact ⟨_, h.drawn hkey, if_pos rfl⟩
  · rename_i hne
    refine ⟨_, h.drawn hentry, if_neg fun hhandle => ?_⟩
    exact hne (h.distinct hkey hentry hhandle.symm)

theorem Intact.lost (h : Intact r s) {handle : Handle} {drawing : Drawing} {s' : σ}
    (hredraw : Surface.redraw handle drawing s = (false, s')) : Intact r s' where
  toOwned := h.toOwned.lost hredraw
  drawn hentry := by
    have hgone : ∀ p ∈ shown s, p.handle ≠ handle := fun p hp hhandle =>
      Bool.false_ne_true ((FaithfulSurface.redraw_found hredraw).mpr ⟨p, hp, hhandle⟩)
    rw [FaithfulSurface.shown_redraw hredraw, PlacedDrawing.map_redrawn_of_forall_ne hgone]
    exact h.drawn hentry

/-- **Nothing is lost** in a reconciliation. What is refused is not in the registry either. -/
theorem intact_invariant : Invariant (@Intact σ _) where
  remove key h := h.remove key
  create drawing h hkey := h.create drawing hkey
  update h hkey hredraw := h.update hkey hredraw
  lost h hredraw := h.lost hredraw

end

end ChartLayer.Registry
