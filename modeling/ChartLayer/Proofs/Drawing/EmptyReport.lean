import ChartLayer.Proofs.Drawing.Balance

/-!
# What an empty report leaves open

A report is empty when nothing was drawn, changed or removed. A drawing that was to be drawn anew
and was refused has been taken off all the same, and no count tells. So an empty report says that
nothing has happened except for the refusals, and as long as none of the refused drawings had an
entry nothing has happened at all.

* `Turn.counted_or_idle`, `Work.idle_settleAll`: a turn, and a run of turns, without a count.
* `empty_report`: what a report says of a reconciliation, and when it is silent.
* `silent_loss`: a pool that is taken off without a word.
-/

namespace ChartLayer

/-- How many drawings a report counts as drawn or changed. -/
def Changes.drawn (c : Changes) : Nat := c.created + c.updated + c.recreated

namespace Registry

open LossySurface (shown refusals)

variable {σ : Type}

/-- From `w` to `w'` the drawings of `refused` were refused, and taken off if they were there.
Nothing else has happened. -/
structure Idle [LossySurface σ] (refused : List DrawingKey) (w w' : Work σ) : Prop where
  entries (k : DrawingKey) :
    w'.registry.entries[k]? = if k ∈ refused then none else w.registry.entries[k]?
  drawings : shown w'.surface = (shown w.surface).filter fun p => p.key ∉ refused
  rejected : refusals w'.surface = refused ++ refusals w.surface

section

variable [LossySurface σ] {w w' : Work σ}

theorem Idle.of_same (hentries : w'.registry.entries = w.registry.entries)
    (hshown : shown w'.surface = shown w.surface)
    (hrefusals : refusals w'.surface = refusals w.surface) : Idle [] w w' where
  entries k := by rw [hentries, if_neg List.not_mem_nil]
  drawings := by rw [hshown]; exact (List.filter_eq_self.mpr fun _ _ => rfl).symm
  rejected := hrefusals

theorem Idle.trans {w'' : Work σ} {first later : List DrawingKey} (h : Idle first w w')
    (h' : Idle later w' w'') : Idle (later ++ first) w w'' where
  entries k := by
    rw [h'.entries, h.entries]
    by_cases hlater : k ∈ later <;> simp [hlater]
  drawings := by
    rw [h'.drawings, h.drawings, List.filter_filter]
    simp only [List.mem_append, not_or, Bool.decide_and]
  rejected := by rw [h'.rejected, h.rejected, List.append_assoc]

/-- With the refused drawings removed all is as it was, exactly if none of them had an entry. -/
theorem Idle.same_iff {refused : List DrawingKey} (h : Idle refused w w')
    (howned : Owned w.registry w.surface) :
    (w'.registry.entries = w.registry.entries ∧ shown w'.surface = shown w.surface) ↔
      ∀ key ∈ refused, key ∉ w.registry.entries := by
  constructor
  · rintro ⟨hentries, -⟩ key hkey
    rw [Std.ExtTreeMap.mem_iff_isSome_getElem?, ← hentries, h.entries, if_pos hkey]
    exact Bool.false_ne_true
  · intro hnone
    have hmissing : ∀ key ∈ refused, w.registry.entries[key]? = none := fun key hkey =>
      Std.ExtTreeMap.getElem?_eq_none (hnone key hkey)
    constructor
    · refine Std.ExtTreeMap.ext_getElem? fun k => ?_
      rw [h.entries]
      split
      · rename_i hk
        exact (hmissing k hk).symm
      · rfl
    · rw [h.drawings, List.filter_eq_self.mpr]
      intro p hp
      refine decide_eq_true fun hkey => ?_
      cases (hmissing _ hkey).symm.trans (howned.owner p hp)

end

section

variable [FaithfulSurface σ] {key : DrawingKey} {drawing : Drawing} {w w' : Work σ}

/-- **One turn** is counted, or it is idle. -/
theorem Turn.counted_or_idle (h : Turn key drawing w w') (howned : Owned w.registry w.surface) :
    w'.report.drawn = w.report.drawn + 1 ∨
      (w'.report.drawn = w.report.drawn ∧ ∃ refused, Idle refused w w') := by
  cases h with
  | created _ _ _ _ _ _ report => left; simp only [report, Changes.drawn]; omega
  | updated _ _ _ _ _ _ _ _ report => left; simp only [report, Changes.drawn]; omega
  | recreated _ _ _ _ _ _ _ _ _ report => left; simp only [report, Changes.drawn]; omega
  | unchanged _ _ _ entries drawings accepted report =>
    exact Or.inr ⟨by rw [report]; rfl, [], .of_same entries drawings accepted⟩
  | refused before entries drawings rejected report =>
    refine Or.inr ⟨by rw [report], [key], fun k => ?_, ?_, rejected⟩
    · rw [entries]
      split
      · rename_i hk
        rw [List.mem_singleton.mp hk, before]
      · rfl
    · rw [drawings, List.filter_eq_self.mpr]
      intro p hp
      refine decide_eq_true fun hkey => ?_
      cases before.symm.trans (List.mem_singleton.mp hkey ▸ howned.owner p hp)
  | dropped entry before _ _ entries drawings rejected report =>
    refine Or.inr ⟨by rw [report], [key], fun k => ?_, ?_, rejected⟩
    · rw [entries, Std.ExtTreeMap.getElem?_erase]
      simp only [order_eq_iff, List.mem_singleton, @eq_comm _ k]
    · rw [drawings]
      refine List.filter_congr fun p hp => decide_eq_decide.mpr (not_congr ?_)
      rw [List.mem_singleton]
      constructor
      · exact fun hhandle => by rw [howned.eq_of_handle before hp hhandle]
      · rintro rfl
        cases before.symm.trans (howned.owner p hp)
        rfl

/-- A count never falls, so that all turns of a run without a count are idle. -/
theorem Work.idle_settleAll (family : DrawingFamily) (wanted : List (String × Drawing)) {w : Work σ}
    (howned : Owned w.registry w.surface) :
    w.report.drawn ≤ (w.settleAll family wanted).report.drawn ∧
      ((w.settleAll family wanted).report.drawn = w.report.drawn →
        ∃ refused, Idle refused w (w.settleAll family wanted)) := by
  induction wanted generalizing w with
  | nil => exact ⟨Nat.le_refl _, fun _ => ⟨[], .of_same rfl rfl rfl⟩⟩
  | cons want rest ih =>
    obtain ⟨hle, hrest⟩ := ih (owned_invariant.settle howned ⟨family, want.1⟩ want.2)
    rcases (w.turn_settle ⟨family, want.1⟩ want.2).counted_or_idle howned with
      hcounted | ⟨hsame, first, hfirst⟩
    · rw [hcounted] at hle
      exact ⟨Nat.le_of_succ_le hle, fun hsilent => absurd (hsilent ▸ hle) (Nat.not_succ_le_self _)⟩
    · rw [hsame] at hle hrest
      refine ⟨hle, fun hsilent => ?_⟩
      obtain ⟨later, hlater⟩ := hrest hsilent
      exact ⟨later ++ first, hfirst.trans hlater⟩

/-- **A silent reconciliation.** -/
theorem reconcile_idle {r : Registry} {s : σ} (howned : Owned r s) {family : DrawingFamily}
    {desired : DesiredDrawings} (hempty : (r.reconcile family desired s).report.isEmpty = true) :
    ∃ refused, Idle refused { registry := r, surface := s } (r.reconcile family desired s) := by
  simp only [Changes.isEmpty, Bool.and_eq_true, beq_iff_eq] at hempty
  obtain ⟨⟨⟨hcreated, hupdated⟩, hrecreated⟩, hremoved⟩ := hempty
  rw [removed_reconcile, List.length_eq_zero_iff] at hremoved
  have hreconcile : r.reconcile family desired s =
      Work.settleAll family desired.toList { registry := r, surface := s } := by
    unfold reconcile
    rw [hremoved]
    rfl
  rw [hreconcile] at hcreated hupdated hrecreated ⊢
  refine (Work.idle_settleAll family desired.toList
    (w := { registry := r, surface := s }) howned).2 ?_
  simp only [Changes.drawn, hcreated, hupdated, hrecreated]

/-- **What the report says.** The registry grows by what was created, and shrinks by what was
removed and by the refused drawings that had an entry. If the report is empty, these are all that is
gone, and nothing has happened at all exactly if there are none. -/
theorem empty_report {s₀ s : σ} {r : Registry} (hempty : shown s₀ = []) (h : Reaches s₀ r s)
    (family : DrawingFamily) (desired : DesiredDrawings) :
    ∃ refused, refusals (r.reconcile family desired s).surface = refused ++ refusals s ∧
      (r.reconcile family desired s).registry.size +
          (r.reconcile family desired s).report.removed +
          (refused.filter r.entries.contains).length =
        r.size + (r.reconcile family desired s).report.created ∧
      ((r.reconcile family desired s).report.isEmpty = true →
        (∀ k : DrawingKey, (r.reconcile family desired s).registry.entries[k]? =
          if k ∈ refused then none else r.entries[k]?) ∧
        (shown (r.reconcile family desired s).surface =
          (shown s).filter fun p => p.key ∉ refused) ∧
        (((r.reconcile family desired s).registry.entries = r.entries ∧
            shown (r.reconcile family desired s).surface = shown s) ↔
          ∀ key ∈ refused, key ∉ r.entries)) := by
  have howned : Owned r s := h.owned hempty
  obtain ⟨refused, hrefusals, -, -, hsize⟩ := reconcile_account family desired r s
  refine ⟨refused, hrefusals, hsize, fun hsilent => ?_⟩
  obtain ⟨others, hidle⟩ := reconcile_idle howned hsilent
  obtain rfl : others = refused :=
    List.append_cancel_right (hidle.rejected.symm.trans hrefusals)
  exact ⟨hidle.entries, hidle.drawings, hidle.same_iff howned⟩

end

/-! ## One pool -/

/-- The pool is drawn, and from now on it is refused. -/
def pickySurface : Recorded UnsteadySurface := drawnPool.surface.update (.refuse ["p1"])

theorem reaches_pickySurface : Reaches .unmeasured drawnPool.registry pickySurface :=
  .lose (.reconcile _ _ .start) (List.Subset.refl _) fun _ h => h

/-- As long as it stays what it is, nothing happens. -/
theorem empty_report_of_kept_pool :
    shown Recorded.unmeasured = [] ∧ Reaches .unmeasured drawnPool.registry pickySurface ∧
      ∃ w, w = reconcile .pool (poolWith .active) drawnPool.registry pickySurface ∧
        w.report.isEmpty = true ∧ w.registry.entries = drawnPool.registry.entries ∧
        shown w.surface = shown pickySurface := by
  obtain ⟨refused, hrefusals, -, hsilent⟩ :=
    empty_report rfl reaches_pickySurface .pool (poolWith .active)
  have hnone : refused = [] := by
    have hnow : refusals pickySurface = [] := by decide +kernel
    rw [hnow, List.append_nil] at hrefusals
    rw [← hrefusals]
    decide +kernel
  have hempty : (reconcile .pool (poolWith .active) drawnPool.registry
      pickySurface).report.isEmpty = true := by decide +kernel
  obtain ⟨hentries, hshown⟩ := (hsilent hempty).2.2.mpr (by simp [hnone])
  exact ⟨rfl, reaches_pickySurface, _, rfl, hempty, hentries, hshown⟩

/-- **Silence.** It is swept and is to lose its fill: it is taken off and refused, and the report is
empty. -/
theorem silent_loss :
    Reaches .unmeasured drawnPool.registry pickySurface ∧
      ∃ w, w = reconcile .pool (poolWith .swept) drawnPool.registry pickySurface ∧
        w.report.isEmpty = true ∧ shown w.surface ≠ shown pickySurface ∧
        drawnPool.registry.size = 1 ∧ w.registry.size = 0 ∧ w.report.created = 0 ∧
        w.report.removed = 0 := by
  refine ⟨reaches_pickySurface, _, rfl, ?_, ?_, ?_, ?_, ?_, ?_⟩ <;> decide +kernel

end Registry

end ChartLayer
