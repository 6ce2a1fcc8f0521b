import ChartLayer.Drawing.Registry

/-!
# Entries of the registry

What each operation leaves under a key.

* `getElem?_create_of_ne`, `getElem?_remove`, `Work.getElem?_settle_of_ne`: an operation on one key
  leaves the entries under all others.
* `getElem?_reconcile_of_family_ne`, `getElem?_reconcile_of_not_desired`: reconciling a family
  leaves the other families alone and keeps nothing that is not wanted.
* `removed_reconcile`: what is no longer wanted is counted.
* `Invariant.reconcile`: what every single change keeps, a reconciliation keeps.
-/

namespace ChartLayer.Registry

variable {σ : Type} [Surface σ]

@[simp] theorem order_eq_iff {a b : DrawingKey} : DrawingKey.order a b = .eq ↔ a = b :=
  Std.LawfulEqCmp.compare_eq_iff_eq

theorem getElem?_insert_entry (r : Registry) (key k : DrawingKey) (entry : RegistryEntry) :
    (r.entries.insert key entry)[k]? = if key = k then some entry else r.entries[k]? := by
  simp [Std.ExtTreeMap.getElem?_insert]

/-- An entry is forgotten together with its drawing. -/
theorem remove_of_entry {r : Registry} {key : DrawingKey} {entry : RegistryEntry}
    (h : r.entries[key]? = some entry) (s : σ) :
    r.remove key s = (⟨r.entries.erase key⟩, Surface.erase entry.handle s) := by
  unfold remove
  rw [h]

theorem remove_of_none {r : Registry} {key : DrawingKey} (h : r.entries[key]? = none) (s : σ) :
    r.remove key s = (r, s) := by
  unfold remove
  rw [h]

theorem getElem?_remove (key k : DrawingKey) (r : Registry) (s : σ) :
    (r.remove key s).1.entries[k]? = if key = k then none else r.entries[k]? := by
  cases hkey : r.entries[key]? with
  | some entry =>
    rw [remove_of_entry hkey]
    simp [Std.ExtTreeMap.getElem?_erase]
  | none =>
    rw [remove_of_none hkey]
    split
    · rename_i hk; rw [← hk, hkey]
    · rfl

theorem getElem?_create_of_ne {key k : DrawingKey} (hk : key ≠ k) (drawing : Drawing)
    (r : Registry) (s : σ) : (r.create key drawing s).2.1.entries[k]? = r.entries[k]? := by
  unfold create
  split
  · simp [Std.ExtTreeMap.getElem?_insert, hk]
  · rfl

theorem Work.getElem?_discard (w : Work σ) (key k : DrawingKey) :
    (w.discard key).registry.entries[k]? = if key = k then none else w.registry.entries[k]? :=
  getElem?_remove key k w.registry w.surface

theorem Work.getElem?_redraw_of_ne {key k : DrawingKey} (hk : key ≠ k) (drawing : Drawing)
    (w : Work σ) : (w.redraw key drawing).registry.entries[k]? = w.registry.entries[k]? := by
  unfold redraw
  simp only [getElem?_create_of_ne hk, getElem?_remove, if_neg hk]

/-- **Frame.** Settling one drawing leaves the entries of the others alone. -/
theorem Work.getElem?_settle_of_ne {key k : DrawingKey} (hk : key ≠ k) (drawing : Drawing)
    (w : Work σ) : (w.settle key drawing).registry.entries[k]? = w.registry.entries[k]? := by
  unfold settle
  split
  · exact getElem?_create_of_ne hk drawing w.registry w.surface
  split
  · rfl
  split
  · exact getElem?_redraw_of_ne hk drawing w
  split
  · simp [Std.ExtTreeMap.getElem?_insert, hk]
  · exact getElem?_redraw_of_ne hk drawing _

theorem Work.getElem?_settleAll_of_ne {family : DrawingFamily} {k : DrawingKey}
    {wanted : List (String × Drawing)} (hk : ∀ want ∈ wanted, (⟨family, want.1⟩ : DrawingKey) ≠ k)
    (w : Work σ) : (w.settleAll family wanted).registry.entries[k]? = w.registry.entries[k]? := by
  induction wanted generalizing w with
  | nil => rfl
  | cons want rest ih =>
    have hrest := ih (fun other hmem => hk other (List.mem_cons_of_mem _ hmem))
      (w.settle ⟨family, want.1⟩ want.2)
    exact hrest.trans (w.getElem?_settle_of_ne (hk want List.mem_cons_self) want.2)

theorem Work.getElem?_settleAll_of_notMem {identity : String} {wanted : List (String × Drawing)}
    (hnot : identity ∉ wanted.map Prod.fst) (family : DrawingFamily) (w : Work σ) :
    (w.settleAll family wanted).registry.entries[(⟨family, identity⟩ : DrawingKey)]? =
      w.registry.entries[(⟨family, identity⟩ : DrawingKey)]? := by
  refine Work.getElem?_settleAll_of_ne (fun want hmem heq => hnot ?_) w
  exact List.mem_map.mpr ⟨want, hmem, (DrawingKey.mk.inj heq).2⟩

theorem Work.getElem?_foldl_discard (keys : List DrawingKey) (k : DrawingKey) (w : Work σ) :
    (keys.foldl Work.discard w).registry.entries[k]? =
      if k ∈ keys then none else w.registry.entries[k]? := by
  induction keys generalizing w with
  | nil => simp
  | cons key rest ih =>
    rw [List.foldl_cons, ih, w.getElem?_discard key k]
    by_cases hk : key = k
    · simp [hk]
    · simp [hk, Ne.symm hk]

@[simp] theorem mem_staleKeys {family : DrawingFamily} {desired : DesiredDrawings} {r : Registry}
    {k : DrawingKey} : k ∈ r.staleKeys family desired ↔
      k ∈ r.entries ∧ k.family = family ∧ k.identity ∉ desired := by
  simp [staleKeys, familyKeys, and_assoc, and_comm, ← Std.ExtTreeMap.contains_iff_mem]

theorem mem_identities {desired : DesiredDrawings} {identity : String} :
    identity ∈ desired.toList.map Prod.fst ↔ identity ∈ desired := by
  rw [Std.ExtTreeMap.map_fst_toList_eq_keys, Std.ExtTreeMap.mem_keys]

theorem mem_of_wanted {desired : DesiredDrawings} {identity : String} {drawing : Drawing}
    (h : desired[identity]? = some drawing) : identity ∈ desired := by
  rw [Std.ExtTreeMap.mem_iff_isSome_getElem?, h]
  rfl

theorem not_mem_of_unwanted {desired : DesiredDrawings} {identity : String}
    (h : desired[identity]? = none) : identity ∉ desired := by
  rw [Std.ExtTreeMap.mem_iff_isSome_getElem?, h]
  exact Bool.false_ne_true

theorem nodup_identities (desired : DesiredDrawings) : (desired.toList.map Prod.fst).Nodup := by
  rw [Std.ExtTreeMap.map_fst_toList_eq_keys]
  exact Std.ExtTreeMap.nodup_keys

theorem getElem?_reconcile_of_family_ne {family : DrawingFamily} {k : DrawingKey}
    (hk : k.family ≠ family) (desired : DesiredDrawings) (r : Registry) (s : σ) :
    (r.reconcile family desired s).registry.entries[k]? = r.entries[k]? := by
  have hother : ∀ want ∈ desired.toList, (⟨family, want.1⟩ : DrawingKey) ≠ k := by
    rintro want - rfl
    exact hk rfl
  simp only [reconcile, Work.getElem?_settleAll_of_ne hother, Work.getElem?_foldl_discard]
  rw [if_neg (fun hmem => hk (mem_staleKeys.mp hmem).2.1)]

theorem getElem?_reconcile_of_not_desired {identity : String} {desired : DesiredDrawings}
    (hnot : identity ∉ desired) (family : DrawingFamily) (r : Registry) (s : σ) :
    (r.reconcile family desired s).registry.entries[(⟨family, identity⟩ : DrawingKey)]? = none := by
  have hunwanted : identity ∉ desired.toList.map Prod.fst := mt mem_identities.mp hnot
  simp only [reconcile, Work.getElem?_settleAll_of_notMem hunwanted, Work.getElem?_foldl_discard]
  by_cases hentry : (⟨family, identity⟩ : DrawingKey) ∈ r.entries
  · rw [if_pos (mem_staleKeys.mpr ⟨hentry, rfl, hnot⟩)]
  · rw [Std.ExtTreeMap.getElem?_eq_none hentry, ite_self]

/-! ## The report -/

theorem Work.removed_foldl_discard (keys : List DrawingKey) (w : Work σ) :
    (keys.foldl Work.discard w).report.removed = w.report.removed + keys.length := by
  induction keys generalizing w with
  | nil => rfl
  | cons key rest ih =>
    have hfirst : (w.discard key).report.removed = w.report.removed + 1 := rfl
    rw [List.foldl_cons, ih, hfirst, List.length_cons]
    omega

theorem Work.removed_settle (key : DrawingKey) (drawing : Drawing) (w : Work σ) :
    (w.settle key drawing).report.removed = w.report.removed := by
  unfold settle
  repeat' split
  all_goals rfl

theorem Work.removed_settleAll (family : DrawingFamily) (wanted : List (String × Drawing))
    (w : Work σ) : (w.settleAll family wanted).report.removed = w.report.removed := by
  induction wanted generalizing w with
  | nil => rfl
  | cons want rest ih => exact (ih (w.settle ⟨family, want.1⟩ want.2)).trans (w.removed_settle _ _)

/-- A reconciliation counts what is no longer wanted. -/
theorem removed_reconcile (family : DrawingFamily) (desired : DesiredDrawings) (r : Registry)
    (s : σ) : (r.reconcile family desired s).report.removed = (r.staleKeys family desired).length := by
  unfold reconcile
  rw [Work.removed_settleAll, Work.removed_foldl_discard]
  exact Nat.zero_add _

/-! ## Invariants -/

/-- A property of registry and surface that each single change of a reconciliation keeps. -/
structure Invariant (P : Registry → σ → Prop) : Prop where
  remove {r : Registry} {s : σ} (key : DrawingKey) : P r s → P (r.remove key s).1 (r.remove key s).2
  create {r : Registry} {s : σ} {key : DrawingKey} (drawing : Drawing) : P r s →
    r.entries[key]? = none → P (r.create key drawing s).2.1 (r.create key drawing s).2.2
  update {r : Registry} {s s' : σ} {key : DrawingKey} {entry : RegistryEntry} {drawing : Drawing} :
    P r s → r.entries[key]? = some entry →
      Surface.redraw entry.handle drawing s = (true, s') →
        P { r with entries := r.entries.insert key ⟨entry.handle, drawing⟩ } s'
  lost {r : Registry} {s s' : σ} {handle : Handle} {drawing : Drawing} : P r s →
    Surface.redraw handle drawing s = (false, s') → P r s'

namespace Invariant

variable {P : Registry → σ → Prop}

theorem redraw (hP : Invariant P) {w : Work σ} (h : P w.registry w.surface) (key : DrawingKey)
    (drawing : Drawing) : P (w.redraw key drawing).registry (w.redraw key drawing).surface := by
  have hremoved := hP.remove key h
  have hnone : (w.registry.remove key w.surface).1.entries[key]? = none := by
    rw [getElem?_remove, if_pos rfl]
  exact hP.create drawing hremoved hnone

theorem settle (hP : Invariant P) {w : Work σ} (h : P w.registry w.surface) (key : DrawingKey)
    (drawing : Drawing) : P (w.settle key drawing).registry (w.settle key drawing).surface := by
  unfold Work.settle
  split
  · rename_i hnone
    exact hP.create drawing h hnone
  rename_i entry hentry
  split
  · exact h
  split
  · exact hP.redraw h key drawing
  split
  · rename_i s' hredraw
    exact hP.update h hentry hredraw
  · rename_i s' hredraw
    exact hP.redraw (w := { w with surface := s' }) (hP.lost h hredraw) key drawing

theorem foldl_discard (hP : Invariant P) (keys : List DrawingKey) {w : Work σ}
    (h : P w.registry w.surface) :
    P (keys.foldl Work.discard w).registry (keys.foldl Work.discard w).surface := by
  induction keys generalizing w with
  | nil => exact h
  | cons key rest ih => exact ih (hP.remove key h)

theorem settleAll (hP : Invariant P) (family : DrawingFamily) (wanted : List (String × Drawing))
    {w : Work σ} (h : P w.registry w.surface) :
    P (w.settleAll family wanted).registry (w.settleAll family wanted).surface := by
  induction wanted generalizing w with
  | nil => exact h
  | cons want rest ih => exact ih (hP.settle h ⟨family, want.1⟩ want.2)

/-- **Reconciliation.** Whatever the surface does on the way, the property is kept. -/
theorem reconcile (hP : Invariant P) {r : Registry} {s : σ} (h : P r s) (family : DrawingFamily)
    (desired : DesiredDrawings) :
    P (r.reconcile family desired s).registry (r.reconcile family desired s).surface := by
  unfold Registry.reconcile
  exact hP.settleAll family desired.toList
    (hP.foldl_discard (r.staleKeys family desired) (w := { registry := r, surface := s }) h)

end Invariant

end ChartLayer.Registry
