import ChartLayer.Proofs.Drawing.Entries
import ChartLayer.Proofs.Surface.Lossy

/-!
# Every drawing has an owner

A registry on a surface that may refuse and lose drawings never leaks one. `Registry.Owned` is the
invariant: what the surface shows is in the registry, with the same handle and looks; no two entries
share a handle; and every handle in the registry was given out by the surface.

* `owned_invariant`, `Owned.shown_clearAll`: a reconciliation keeps it, removing everything too.
* `reconcile_refusals`: a drawing refused in a reconciliation has no entry afterwards.
* `no_leak`: all of this after any run of operations and losses.
-/

namespace ChartLayer.Registry

open LossySurface (shown Issued refusals)

/-! ## The invariant -/

variable {σ : Type} [LossySurface σ]

/-- What the surface shows belongs to the registry. -/
structure Owned (r : Registry) (s : σ) : Prop where
  owner : ∀ p ∈ shown s, r.entries[p.key]? = some ⟨p.handle, p.drawing⟩
  distinct : ∀ {k₁ k₂ : DrawingKey} {e₁ e₂ : RegistryEntry}, r.entries[k₁]? = some e₁ →
    r.entries[k₂]? = some e₂ → e₁.handle = e₂.handle → k₁ = k₂
  issued : ∀ {k : DrawingKey} {e : RegistryEntry}, r.entries[k]? = some e → Issued s e.handle

theorem owned_empty {s : σ} (h : shown s = []) : Owned {} s where
  owner p hp := by rw [h] at hp; cases hp
  distinct h := by simp at h
  issued h := by simp at h

/-- What has the handle of an entry is drawn under its key and looks like it. -/
theorem Owned.eq_of_handle {r : Registry} {s : σ} (h : Owned r s) {key : DrawingKey}
    {entry : RegistryEntry} (hentry : r.entries[key]? = some entry) {p : PlacedDrawing}
    (hp : p ∈ shown s) (hhandle : p.handle = entry.handle) :
    p = ⟨entry.handle, key, entry.drawing⟩ := by
  have hown := h.owner p hp
  obtain rfl : key = p.key := h.distinct hentry hown hhandle.symm
  rw [hentry, Option.some.injEq] at hown
  rw [hown]

/-- A key tells which drawing it is. -/
theorem Owned.eq_of_key_eq {r : Registry} {s : σ} (h : Owned r s) {p q : PlacedDrawing}
    (hp : p ∈ shown s) (hq : q ∈ shown s) (hkey : p.key = q.key) : p = q := by
  have hentry := h.owner p hp
  rw [hkey, h.owner q hq] at hentry
  cases p
  cases q
  cases hentry
  cases hkey
  rfl

/-- Losing drawings does no harm. -/
theorem Owned.of_subset {r : Registry} {s s' : σ} (h : Owned r s) (hsub : shown s' ⊆ shown s)
    (hissued : ∀ g, Issued s g → Issued s' g) : Owned r s' where
  owner p hp := h.owner p (hsub hp)
  distinct := h.distinct
  issued he := hissued _ (h.issued he)

theorem Owned.remove {r : Registry} {s : σ} (h : Owned r s) (key : DrawingKey) :
    Owned (r.remove key s).1 (r.remove key s).2 := by
  cases hkey : r.entries[key]? with
  | none =>
    rw [remove_of_none hkey]
    exact h
  | some entry =>
    obtain ⟨hissued, hshown, -⟩ := LossySurface.erase_spec entry.handle s
    have hsurface : (r.remove key s).2 = Surface.erase entry.handle s := by
      rw [remove_of_entry hkey]
    have hentry {k : DrawingKey} {e : RegistryEntry}
        (he : (r.remove key s).1.entries[k]? = some e) : r.entries[k]? = some e := by
      rw [getElem?_remove] at he
      split at he
      · cases he
      · exact he
    rw [hsurface]
    refine ⟨fun p hp => ?_, fun h₁ h₂ => h.distinct (hentry h₁) (hentry h₂),
      fun he => hissued _ (h.issued (hentry he))⟩
    obtain ⟨hp, hne⟩ := List.mem_filter.mp (hshown hp)
    have hown := h.owner p hp
    rw [getElem?_remove, if_neg ?_, hown]
    rintro rfl
    rw [hkey, Option.some.injEq] at hown
    simp [hown] at hne

/-- A new entry, for a key that has none, with a fresh handle. -/
theorem Owned.create {r : Registry} {s : σ} (h : Owned r s) {key : DrawingKey} (drawing : Drawing)
    (hkey : r.entries[key]? = none) :
    Owned (r.create key drawing s).2.1 (r.create key drawing s).2.2 := by
  unfold Registry.create
  split
  · rename_i handle s' hdraw
    obtain ⟨hfresh, hnew, hissued, hshown, -⟩ := LossySurface.draw_some hdraw
    have hother {k : DrawingKey} {e : RegistryEntry} (he : r.entries[k]? = some e) :
        e.handle ≠ handle := by
      intro heq
      exact hfresh (heq ▸ h.issued he)
    have hold {k : DrawingKey} {e : RegistryEntry}
        (he : (r.entries.insert key ⟨handle, drawing⟩)[k]? = some e) :
        (k = key ∧ e = ⟨handle, drawing⟩) ∨ (k ≠ key ∧ r.entries[k]? = some e) := by
      rw [getElem?_insert_entry] at he
      by_cases hk : key = k
      · rw [if_pos hk, Option.some.injEq] at he; exact Or.inl ⟨hk.symm, he.symm⟩
      · rw [if_neg hk] at he; exact Or.inr ⟨Ne.symm hk, he⟩
    refine ⟨fun p hp => ?_, fun h₁ h₂ hhandle => ?_, fun he => ?_⟩
    · rcases List.mem_cons.mp (hshown hp) with rfl | hp
      · simp
      · have hown := h.owner p hp
        have hne : key ≠ p.key := by rintro rfl; rw [hkey] at hown; cases hown
        simp [Std.ExtTreeMap.getElem?_insert, hne, hown]
    · rcases hold h₁ with ⟨hk₁, rfl⟩ | ⟨-, old₁⟩ <;> rcases hold h₂ with ⟨hk₂, rfl⟩ | ⟨-, old₂⟩
      · rw [hk₁, hk₂]
      · exact absurd hhandle.symm (hother old₂)
      · exact absurd hhandle (hother old₁)
      · exact h.distinct old₁ old₂ hhandle
    · rcases hold he with ⟨-, rfl⟩ | ⟨-, he⟩
      · exact hnew
      · exact hissued _ (h.issued he)
  · rename_i s' hdraw
    obtain ⟨hissued, hshown, -⟩ := LossySurface.draw_none hdraw
    exact h.of_subset hshown hissued

/-- A drawing that was changed in place. -/
theorem Owned.update {r : Registry} {s s' : σ} (h : Owned r s) {key : DrawingKey}
    {entry : RegistryEntry} (hkey : r.entries[key]? = some entry) {drawing : Drawing}
    (hredraw : Surface.redraw entry.handle drawing s = (true, s')) :
    Owned { r with entries := r.entries.insert key ⟨entry.handle, drawing⟩ } s' := by
  obtain ⟨hissued, hshown, -⟩ := LossySurface.redraw_true hredraw
  have hold {k : DrawingKey} {e : RegistryEntry}
      (he : (r.entries.insert key ⟨entry.handle, drawing⟩)[k]? = some e) :
      ∃ e', r.entries[k]? = some e' ∧ e'.handle = e.handle := by
    rw [getElem?_insert_entry] at he
    by_cases hk : key = k
    · subst hk
      rw [if_pos rfl, Option.some.injEq] at he
      exact ⟨entry, hkey, he ▸ rfl⟩
    · rw [if_neg hk] at he; exact ⟨e, he, rfl⟩
  refine ⟨fun p hp => ?_, fun h₁ h₂ hhandle => ?_, fun he => ?_⟩
  · obtain ⟨q, hq, rfl⟩ := List.mem_map.mp (hshown hp)
    have hown := h.owner q hq
    unfold PlacedDrawing.redrawn
    by_cases hhandle : q.handle = entry.handle
    · have hq_key : key = q.key := h.distinct hkey hown hhandle.symm
      simp [hhandle, hq_key]
    · have hne : key ≠ q.key := by
        rintro rfl; rw [hkey, Option.some.injEq] at hown; exact hhandle (hown ▸ rfl)
      simp [hhandle, Std.ExtTreeMap.getElem?_insert, hne, hown]
  · obtain ⟨e₁', h₁', hh₁⟩ := hold h₁
    obtain ⟨e₂', h₂', hh₂⟩ := hold h₂
    exact h.distinct h₁' h₂' (by rw [hh₁, hh₂, hhandle])
  · obtain ⟨e', he', hh⟩ := hold he
    exact hissued _ (hh ▸ h.issued he')

theorem Owned.lost {r : Registry} {s s' : σ} (h : Owned r s) {handle : Handle} {drawing : Drawing}
    (hredraw : Surface.redraw handle drawing s = (false, s')) : Owned r s' := by
  obtain ⟨hissued, hshown, -⟩ := LossySurface.redraw_false hredraw
  exact h.of_subset hshown hissued

/-- Nothing in a reconciliation breaks it, whatever the surface does. -/
theorem owned_invariant : Invariant (@Owned σ _) where
  remove key h := h.remove key
  create drawing h hkey := h.create drawing hkey
  update h hkey hredraw := h.update hkey hredraw
  lost h hredraw := h.lost hredraw

/-! ## Refused drawings -/

/-- A refused drawing is not entered. -/
theorem refusals_create (key : DrawingKey) (drawing : Drawing) (r : Registry) (s : σ) :
    refusals (r.create key drawing s).2.2 = refusals s ∨
      (refusals (r.create key drawing s).2.2 = key :: refusals s ∧
        (r.create key drawing s).2.1 = r) := by
  unfold create
  split
  · rename_i handle s' hdraw
    obtain ⟨-, -, -, -, hrefusals⟩ := LossySurface.draw_some hdraw
    exact Or.inl hrefusals
  · rename_i s' hdraw
    obtain ⟨-, -, hrefusals⟩ := LossySurface.draw_none hdraw
    exact Or.inr ⟨hrefusals, rfl⟩

theorem refusals_remove (key : DrawingKey) (r : Registry) (s : σ) :
    refusals (r.remove key s).2 = refusals s := by
  unfold remove
  split
  · exact (LossySurface.erase_spec _ s).2.2
  · rfl

theorem Work.refusals_redraw (w : Work σ) (key : DrawingKey) (drawing : Drawing) :
    refusals (w.redraw key drawing).surface = refusals w.surface ∨
      (refusals (w.redraw key drawing).surface = key :: refusals w.surface ∧
        (w.redraw key drawing).registry.entries[key]? = none) := by
  unfold redraw
  rw [← refusals_remove key w.registry w.surface]
  rcases refusals_create key drawing (w.registry.remove key w.surface).1
    (w.registry.remove key w.surface).2 with hsame | ⟨hrefused, hregistry⟩
  · exact Or.inl hsame
  · refine Or.inr ⟨hrefused, ?_⟩
    simp only [hregistry, getElem?_remove, if_pos]

/-- Settling a drawing may be refused once, and then the drawing has no entry, old or new. -/
theorem Work.refusals_settle (w : Work σ) (key : DrawingKey) (drawing : Drawing) :
    refusals (w.settle key drawing).surface = refusals w.surface ∨
      (refusals (w.settle key drawing).surface = key :: refusals w.surface ∧
        (w.settle key drawing).registry.entries[key]? = none) := by
  unfold settle
  split
  · rename_i hnone
    rcases refusals_create key drawing w.registry w.surface with hsame | ⟨hrefused, hregistry⟩
    · exact Or.inl hsame
    · exact Or.inr ⟨hrefused, by simpa only [Work.draw, hregistry] using hnone⟩
  split
  · exact Or.inl rfl
  split
  · exact w.refusals_redraw key drawing
  split
  · rename_i s' hredraw
    exact Or.inl (LossySurface.redraw_true hredraw).2.2
  · rename_i s' hredraw
    have hlost : refusals s' = refusals w.surface := (LossySurface.redraw_false hredraw).2.2
    simp only [← hlost]
    exact Work.refusals_redraw { w with surface := s' } key drawing

theorem Work.refusals_foldl_discard (w : Work σ) (keys : List DrawingKey) :
    refusals (keys.foldl Work.discard w).surface = refusals w.surface := by
  induction keys generalizing w with
  | nil => rfl
  | cons key rest ih => exact (ih _).trans (refusals_remove key w.registry w.surface)

/-- The wanted drawings have different identities, so that what one refusal leaves without an entry
no later drawing gives one. -/
theorem Work.refusals_settleAll (family : DrawingFamily) (wanted : List (String × Drawing))
    (hdistinct : (wanted.map Prod.fst).Nodup) (w : Work σ) :
    ∃ new, refusals (w.settleAll family wanted).surface = new ++ refusals w.surface ∧
      ∀ key ∈ new, key.family = family ∧ key.identity ∈ wanted.map Prod.fst ∧
        (w.settleAll family wanted).registry.entries[key]? = none := by
  induction wanted generalizing w with
  | nil => exact ⟨[], rfl, by simp⟩
  | cons want rest ih =>
    obtain ⟨hnew, hdistinct⟩ := List.nodup_cons.mp hdistinct
    obtain ⟨new, hrefusals, hnone⟩ := ih hdistinct (w.settle ⟨family, want.1⟩ want.2)
    have hlater : ∀ key ∈ new, key.family = family ∧ key.identity ∈ (want :: rest).map Prod.fst ∧
        (w.settleAll family (want :: rest)).registry.entries[key]? = none := by
      intro key hkey
      obtain ⟨hfamily, hmem, hentry⟩ := hnone key hkey
      exact ⟨hfamily, List.mem_cons_of_mem _ hmem, hentry⟩
    rcases w.refusals_settle ⟨family, want.1⟩ want.2 with hsame | ⟨hrefused, hentry⟩
    · exact ⟨new, by rw [← hsame]; exact hrefusals, hlater⟩
    · refine ⟨new ++ [⟨family, want.1⟩], ?_, fun key hkey => ?_⟩
      · rw [List.append_assoc, List.singleton_append, ← hrefused]; exact hrefusals
      · rcases List.mem_append.mp hkey with hkey | hkey
        · exact hlater key hkey
        · rw [List.mem_singleton.mp hkey]
          refine ⟨rfl, List.mem_cons_self, ?_⟩
          exact (Work.getElem?_settleAll_of_notMem hnew family _).trans hentry

theorem reconcile_refusals (family : DrawingFamily) (desired : DesiredDrawings) (r : Registry)
    (s : σ) :
    ∃ new, refusals (r.reconcile family desired s).surface = new ++ refusals s ∧
      ∀ key ∈ new, key.family = family ∧ key.identity ∈ desired ∧
        (r.reconcile family desired s).registry.entries[key]? = none := by
  let cleared := (r.staleKeys family desired).foldl Work.discard { registry := r, surface := s }
  obtain ⟨new, hrefusals, hnone⟩ := cleared.refusals_settleAll family desired.toList (nodup_identities desired)
  refine ⟨new, ?_, fun key hkey => ?_⟩
  · rw [← Work.refusals_foldl_discard { registry := r, surface := s } (r.staleKeys family desired)]
    exact hrefusals
  · obtain ⟨hfamily, hmem, hentry⟩ := hnone key hkey
    exact ⟨hfamily, mem_identities.mp hmem, hentry⟩

/-! ## Removing everything -/

theorem shown_foldl_erase (entries : List (DrawingKey × RegistryEntry)) (s : σ) :
    ∀ p ∈ shown (entries.foldl (fun s (_, entry) => Surface.erase entry.handle s) s),
      p ∈ shown s ∧ ∀ e ∈ entries, e.2.handle ≠ p.handle := by
  induction entries generalizing s with
  | nil => simp
  | cons first rest ih =>
    intro p hp
    obtain ⟨hp, hrest⟩ := ih _ p hp
    obtain ⟨hp, hfirst⟩ := List.mem_filter.mp ((LossySurface.erase_spec _ s).2.1 hp)
    refine ⟨hp, List.forall_mem_cons.mpr ⟨?_, hrest⟩⟩
    exact Ne.symm (of_decide_eq_true hfirst)

theorem Owned.shown_clearAll {r : Registry} {s : σ} (h : Owned r s) :
    shown (r.clearAll s).2.2 = [] := by
  refine List.eq_nil_iff_forall_not_mem.mpr fun p hp => ?_
  obtain ⟨hp, hnone⟩ := shown_foldl_erase r.entries.toList s p hp
  have hentry := Std.ExtTreeMap.mem_toList_iff_getElem?_eq_some.mpr (h.owner p hp)
  exact hnone _ hentry rfl

/-! ## Any run -/

/-- What can come of a registry on a surface: it reconciles families and removes everything, in any
order, and in between the surface may lose drawings by itself. -/
inductive Reaches (s₀ : σ) : Registry → σ → Prop
  | start : Reaches s₀ {} s₀
  | reconcile {r : Registry} {s : σ} (family : DrawingFamily) (desired : DesiredDrawings) :
      Reaches s₀ r s →
        Reaches s₀ (r.reconcile family desired s).registry (r.reconcile family desired s).surface
  | clearAll {r : Registry} {s : σ} :
      Reaches s₀ r s → Reaches s₀ (r.clearAll s).2.1 (r.clearAll s).2.2
  | lose {r : Registry} {s s' : σ} : Reaches s₀ r s → shown s' ⊆ shown s →
      (∀ handle, Issued s handle → Issued s' handle) → Reaches s₀ r s'

theorem Reaches.owned {s₀ s : σ} {r : Registry} (hempty : shown s₀ = []) (h : Reaches s₀ r s) :
    Owned r s := by
  induction h with
  | start => exact owned_empty hempty
  | reconcile family desired _ ih => exact owned_invariant.reconcile ih family desired
  | clearAll _ ih => exact owned_empty ih.shown_clearAll
  | lose _ hsub hissued ih => exact ih.of_subset hsub hissued

/-- **No leak.** A surface that was empty at first holds, after any run, only drawings with an entry
of their own, under the same key and with the same looks; no two entries share a handle; a drawing
refused in the next reconciliation has no entry after it; and removing everything leaves nothing. -/
theorem no_leak {s₀ s : σ} {r : Registry} (hempty : shown s₀ = []) (h : Reaches s₀ r s) :
    (∀ p ∈ shown s, r.entries[p.key]? = some ⟨p.handle, p.drawing⟩ ∧
      ∀ k e, r.entries[k]? = some e → e.handle = p.handle → k = p.key) ∧
    (∀ (k₁ k₂ : DrawingKey) (e₁ e₂ : RegistryEntry), r.entries[k₁]? = some e₁ →
      r.entries[k₂]? = some e₂ → k₁ ≠ k₂ → e₁.handle ≠ e₂.handle) ∧
    (∀ family desired, ∃ new,
      refusals (r.reconcile family desired s).surface = new ++ refusals s ∧
        ∀ key ∈ new, key.family = family ∧ key.identity ∈ desired ∧
          (r.reconcile family desired s).registry.entries[key]? = none) ∧
    (r.clearAll s).2.1.entries = ∅ ∧ shown (r.clearAll s).2.2 = [] := by
  have howned := h.owned hempty
  refine ⟨fun p hp => ⟨howned.owner p hp, fun k e he hhandle => ?_⟩, ?_, ?_, rfl, ?_⟩
  · exact howned.distinct he (howned.owner p hp) hhandle
  · intro k₁ k₂ e₁ e₂ h₁ h₂ hne hhandle
    exact hne (howned.distinct h₁ h₂ hhandle)
  · intro family desired
    exact reconcile_refusals family desired r s
  · exact howned.shown_clearAll

/-- Loses the first drawing before it is to be changed, and refuses to draw it again. -/
def brittle : FickleSurface :=
  { inner := .unmeasured, fates := [{}, { lost := [⟨1⟩] }, {}, { refuses := true }] }

/-- One level, in some color. -/
def levelIn (color : String) : DesiredDrawings :=
  (∅ : DesiredDrawings).insert "pdh" { shape := .line, extent := {}, style := { color } }

def drawnOnce : Work FickleSurface := reconcile .level (levelIn "#ef5350") {} brittle

theorem no_leak_of_brittle :
    shown brittle = [] ∧ Reaches brittle drawnOnce.registry drawnOnce.surface ∧
      (shown drawnOnce.surface).map (fun p => p.key) = [⟨.level, "pdh"⟩] ∧
      ∃ w, w = reconcile .level (levelIn "#26a69a") drawnOnce.registry drawnOnce.surface ∧
        refusals w.surface = [⟨.level, "pdh"⟩] ∧
        w.registry.entries[(⟨.level, "pdh"⟩ : DrawingKey)]? = none := by
  have hreach : Reaches brittle drawnOnce.registry drawnOnce.surface := .reconcile _ _ .start
  refine ⟨by decide +kernel, hreach, by decide +kernel, _, rfl, by decide +kernel, ?_⟩
  obtain ⟨new, hrefusals, hnone⟩ :=
    (no_leak (by decide +kernel) hreach).2.2.1 .level (levelIn "#26a69a")
  have hnew : new = [⟨.level, "pdh"⟩] := by
    have hnow : refusals drawnOnce.surface = [] := by decide +kernel
    rw [hnow, List.append_nil] at hrefusals
    rw [← hrefusals]
    decide +kernel
  exact (hnone _ (hnew ▸ List.mem_cons_self)).2.2

end ChartLayer.Registry
