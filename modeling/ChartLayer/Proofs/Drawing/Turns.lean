import ChartLayer.Proofs.Drawing.Ownership
import ChartLayer.Proofs.Surface.Faithful

/-!
# The turn of a drawing

A reconciliation settles the drawings that are wanted one after the other. On a faithful surface
each of them goes one of six ways, and `Turn` says all that there is to say of each way: what
becomes of the entry, of the surface, of the refusals and of the report.

* `Work.turn_settle`: there is no seventh way.
* `SameOn.settleAll`, `SameOn.foldl_discard`: **frame.** A turn leaves all other drawings alone.
* `reconcile_turn`: each wanted drawing has one turn, and nothing but this turn touches it.
-/

namespace ChartLayer.Registry

open LossySurface (shown Issued refusals)

variable {σ : Type}

/-! ## Six ways -/

section

variable [FaithfulSurface σ]

/-- What can come of settling one drawing. -/
inductive Turn (key : DrawingKey) (drawing : Drawing) (w w' : Work σ) : Prop where
  /-- It had no entry and is drawn. -/
  | created (handle : Handle) (before : w.registry.entries[key]? = none)
      (fresh : ¬Issued w.surface handle)
      (entries : w'.registry.entries = w.registry.entries.insert key ⟨handle, drawing⟩)
      (drawings : shown w'.surface = shown w.surface ++ [⟨handle, key, drawing⟩])
      (accepted : refusals w'.surface = refusals w.surface)
      (report : w'.report = { w.report with created := w.report.created + 1 })
  /-- It had no entry and is refused. -/
  | refused (before : w.registry.entries[key]? = none)
      (entries : w'.registry.entries = w.registry.entries)
      (drawings : shown w'.surface = shown w.surface)
      (rejected : refusals w'.surface = key :: refusals w.surface)
      (report : w'.report = w.report)
  /-- It looks as it should. The surface is not asked whether it still holds it. -/
  | unchanged (entry : RegistryEntry) (before : w.registry.entries[key]? = some entry)
      (same : entry.drawing.sameAs drawing = true)
      (entries : w'.registry.entries = w.registry.entries)
      (drawings : shown w'.surface = shown w.surface)
      (accepted : refusals w'.surface = refusals w.surface)
      (report : w'.report = { w.report with unchanged := w.report.unchanged + 1 })
  /-- It is changed in place. -/
  | updated (entry : RegistryEntry) (before : w.registry.entries[key]? = some entry)
      (differs : entry.drawing.sameAs drawing = false)
      (inPlace : entry.drawing.needsNew drawing = false)
      (held : ∃ p ∈ shown w.surface, p.handle = entry.handle)
      (entries : w'.registry.entries = w.registry.entries.insert key ⟨entry.handle, drawing⟩)
      (drawings :
        shown w'.surface = (shown w.surface).map (PlacedDrawing.redrawn entry.handle drawing))
      (accepted : refusals w'.surface = refusals w.surface)
      (report : w'.report = { w.report with updated := w.report.updated + 1 })
  /-- It cannot be changed in place, or the surface has lost it, and it is drawn anew. -/
  | recreated (entry : RegistryEntry) (handle : Handle)
      (before : w.registry.entries[key]? = some entry)
      (differs : entry.drawing.sameAs drawing = false)
      (anew : entry.drawing.needsNew drawing = true ∨ ¬∃ p ∈ shown w.surface, p.handle = entry.handle)
      (fresh : ¬Issued w.surface handle)
      (entries : w'.registry.entries = w.registry.entries.insert key ⟨handle, drawing⟩)
      (drawings : shown w'.surface =
        (shown w.surface).filter (fun p => p.handle ≠ entry.handle) ++ [⟨handle, key, drawing⟩])
      (accepted : refusals w'.surface = refusals w.surface)
      (report : w'.report = { w.report with recreated := w.report.recreated + 1 })
  /-- It is to be drawn anew, is taken off the surface, and is refused. No count tells. -/
  | dropped (entry : RegistryEntry) (before : w.registry.entries[key]? = some entry)
      (differs : entry.drawing.sameAs drawing = false)
      (anew : entry.drawing.needsNew drawing = true ∨ ¬∃ p ∈ shown w.surface, p.handle = entry.handle)
      (entries : w'.registry.entries = w.registry.entries.erase key)
      (drawings : shown w'.surface = (shown w.surface).filter fun p => p.handle ≠ entry.handle)
      (rejected : refusals w'.surface = key :: refusals w.surface)
      (report : w'.report = w.report)

/-- A new drawing is accepted or refused. -/
theorem create_cases (key : DrawingKey) (drawing : Drawing) (r : Registry) (s : σ) :
    (∃ handle s', r.create key drawing s = (true, ⟨r.entries.insert key ⟨handle, drawing⟩⟩, s') ∧
        ¬Issued s handle ∧ shown s' = shown s ++ [⟨handle, key, drawing⟩] ∧
        refusals s' = refusals s) ∨
      ∃ s', r.create key drawing s = (false, r, s') ∧ shown s' = shown s ∧
        refusals s' = key :: refusals s := by
  unfold create
  split
  · rename_i handle s' hdraw
    obtain ⟨hfresh, -, -, -, hrefusals⟩ := LossySurface.draw_some hdraw
    exact Or.inl ⟨handle, s', rfl, hfresh, FaithfulSurface.shown_draw_some hdraw, hrefusals⟩
  · rename_i s' hdraw
    obtain ⟨-, -, hrefusals⟩ := LossySurface.draw_none hdraw
    exact Or.inr ⟨s', rfl, FaithfulSurface.shown_draw_none hdraw, hrefusals⟩

namespace Work

variable {w : Work σ} {key : DrawingKey} {entry : RegistryEntry}

theorem turn_draw (before : w.registry.entries[key]? = none) (drawing : Drawing) :
    Turn key drawing w (w.draw key drawing) := by
  unfold draw
  rcases create_cases key drawing w.registry w.surface with
    ⟨handle, s', heq, fresh, drawings, accepted⟩ | ⟨s', heq, drawings, rejected⟩ <;> rw [heq]
  · exact .created handle before fresh rfl drawings accepted rfl
  · exact .refused before rfl drawings rejected rfl

/-- The way of a drawing that has to be drawn anew. The surface may have been asked in vain to
change it in place. -/
theorem turn_redraw (before : w.registry.entries[key]? = some entry) {drawing : Drawing}
    (differs : entry.drawing.sameAs drawing = false)
    (anew : entry.drawing.needsNew drawing = true ∨ ¬∃ p ∈ shown w.surface, p.handle = entry.handle)
    {s : σ} (hshown : shown s = shown w.surface) (hrefusals : refusals s = refusals w.surface)
    (hissued : ∀ h, Issued w.surface h → Issued s h) :
    Turn key drawing w ({ w with surface := s }.redraw key drawing) := by
  obtain ⟨hkept, -, herased⟩ := LossySurface.erase_spec entry.handle s
  have hdrawings := FaithfulSurface.shown_erase entry.handle s
  rw [hshown] at hdrawings
  rw [hrefusals] at herased
  unfold redraw
  rw [remove_of_entry before s]
  rcases create_cases key drawing ⟨w.registry.entries.erase key⟩ (Surface.erase entry.handle s) with
    ⟨handle, s', heq, fresh, drawings, accepted⟩ | ⟨s', heq, drawings, rejected⟩
  · refine .recreated entry handle before differs anew (fun h => fresh (hkept _ (hissued _ h))) ?_
      ?_ ?_ ?_ <;> simp only [heq, if_true]
    · ext k e
      simp only [Std.ExtTreeMap.getElem?_insert, Std.ExtTreeMap.getElem?_erase]
      split <;> simp_all
    · rw [drawings, hdrawings]
    · rw [accepted, herased]
  · refine .dropped entry before differs anew ?_ ?_ ?_ ?_ <;> simp only [heq]
    · rw [drawings, hdrawings]
    · rw [rejected, herased]
    · rfl

/-- **Six ways.** -/
theorem turn_settle (w : Work σ) (key : DrawingKey) (drawing : Drawing) :
    Turn key drawing w (w.settle key drawing) := by
  unfold settle
  split
  · rename_i before
    exact turn_draw before drawing
  rename_i entry before
  split
  · rename_i same
    exact .unchanged entry before same rfl rfl rfl rfl
  rename_i hdiffers
  have differs : entry.drawing.sameAs drawing = false := by simpa using hdiffers
  split
  · rename_i hnew
    exact turn_redraw before differs (Or.inl hnew) rfl rfl fun _ h => h
  rename_i hplace
  have inPlace : entry.drawing.needsNew drawing = false := by simpa using hplace
  split
  · rename_i s' hredraw
    exact .updated entry before differs inPlace
      ((FaithfulSurface.redraw_found hredraw).mp rfl) rfl
      (FaithfulSurface.shown_redraw hredraw) (LossySurface.redraw_true hredraw).2.2 rfl
  · rename_i s' hredraw
    obtain ⟨hissued, -, hrefusals⟩ := LossySurface.redraw_false hredraw
    have hlost : ¬∃ p ∈ shown w.surface, p.handle = entry.handle := fun hheld =>
      Bool.false_ne_true ((FaithfulSurface.redraw_found hredraw).mpr hheld)
    have hshown : shown s' = shown w.surface := by
      rw [FaithfulSurface.shown_redraw hredraw]
      exact PlacedDrawing.map_redrawn_of_forall_ne (fun p hp heq => hlost ⟨p, hp, heq⟩) drawing
    exact turn_redraw before differs (Or.inr hlost) hshown hrefusals hissued

end Work

end

/-! ## What a turn leaves alone -/

/-- Registry and surface say the same of the keys that `q` picks. -/
structure SameOn [LossySurface σ] (q : DrawingKey → Bool) (w w' : Work σ) : Prop where
  entries : ∀ k, q k = true → w'.registry.entries[k]? = w.registry.entries[k]?
  drawings : (shown w'.surface).filter (fun p => q p.key) =
    (shown w.surface).filter fun p => q p.key

section

variable [FaithfulSurface σ] {q : DrawingKey → Bool} {key : DrawingKey} {w w' : Work σ}

theorem SameOn.refl (q : DrawingKey → Bool) (w : Work σ) : SameOn q w w := ⟨fun _ _ => rfl, rfl⟩

theorem SameOn.trans {w'' : Work σ} (h : SameOn q w w') (h' : SameOn q w' w'') : SameOn q w w'' :=
  ⟨fun k hk => (h'.entries k hk).trans (h.entries k hk), h'.drawings.trans h.drawings⟩

theorem SameOn.mem_shown_iff (h : SameOn q w w') {p : PlacedDrawing} (hp : q p.key = true) :
    p ∈ shown w'.surface ↔ p ∈ shown w.surface := by
  have hmem : p ∈ (shown w'.surface).filter (fun p => q p.key) ↔
      p ∈ (shown w.surface).filter (fun p => q p.key) := by rw [h.drawings]
  simpa only [List.mem_filter, hp, and_true] using hmem

/-- Taking a drawing off the surface takes none of the others off. -/
theorem Owned.filter_erased {r : Registry} {s : σ} (h : Owned r s) {entry : RegistryEntry}
    (hentry : r.entries[key]? = some entry) (hq : q key = false) :
    ((shown s).filter fun p => p.handle ≠ entry.handle).filter (fun p => q p.key) =
      (shown s).filter fun p => q p.key := by
  rw [List.filter_filter]
  refine List.filter_congr fun p hp => ?_
  by_cases hhandle : p.handle = entry.handle
  · rw [h.eq_of_handle hentry hp hhandle, hq, Bool.false_and]
  · rw [decide_eq_true hhandle, Bool.and_true]

/-- Changing a drawing in place changes none of the others. -/
theorem Owned.filter_redrawn {r : Registry} {s : σ} (h : Owned r s) {entry : RegistryEntry}
    (hentry : r.entries[key]? = some entry) (hq : q key = false) (drawing : Drawing) :
    ((shown s).map (PlacedDrawing.redrawn entry.handle drawing)).filter (fun p => q p.key) =
      (shown s).filter fun p => q p.key := by
  rw [List.filter_map]
  simp only [Function.comp_def, PlacedDrawing.key_redrawn]
  refine PlacedDrawing.map_redrawn_of_forall_ne (fun p hp hhandle => ?_) drawing
  obtain ⟨hp, hpicked⟩ := List.mem_filter.mp hp
  rw [h.eq_of_handle hentry hp hhandle, hq] at hpicked
  cases hpicked

/-- **Frame.** A turn leaves all other drawings alone. -/
theorem Turn.filter_shown {drawing : Drawing} (h : Turn key drawing w w')
    (howned : Owned w.registry w.surface) (hq : q key = false) :
    (shown w'.surface).filter (fun p => q p.key) = (shown w.surface).filter fun p => q p.key := by
  cases h with
  | created _ _ _ _ drawings =>
    rw [drawings, List.filter_append]
    simp [hq]
  | refused _ _ drawings => rw [drawings]
  | unchanged _ _ _ _ drawings => rw [drawings]
  | updated entry before _ _ _ _ drawings => rw [drawings, howned.filter_redrawn before hq]
  | recreated entry handle before _ _ _ _ drawings =>
    rw [drawings, List.filter_append, howned.filter_erased before hq]
    simp [hq]
  | dropped entry before _ _ _ drawings => rw [drawings, howned.filter_erased before hq]

theorem SameOn.settle (howned : Owned w.registry w.surface) (hq : q key = false)
    (drawing : Drawing) : SameOn q w (w.settle key drawing) where
  entries k hk := by
    refine w.getElem?_settle_of_ne ?_ drawing
    rintro rfl
    exact Bool.false_ne_true (hq.symm.trans hk)
  drawings := (w.turn_settle key drawing).filter_shown howned hq

theorem SameOn.discard (howned : Owned w.registry w.surface) (hq : q key = false) :
    SameOn q w (w.discard key) where
  entries k hk := by
    rw [w.getElem?_discard, if_neg]
    rintro rfl
    exact Bool.false_ne_true (hq.symm.trans hk)
  drawings := by
    unfold Work.discard
    cases hentry : w.registry.entries[key]? with
    | none => rw [remove_of_none hentry]
    | some entry =>
      rw [remove_of_entry hentry]
      simp only [FaithfulSurface.shown_erase]
      exact howned.filter_erased hentry hq

theorem SameOn.settleAll {family : DrawingFamily} {wanted : List (String × Drawing)}
    (hq : ∀ want ∈ wanted, q ⟨family, want.1⟩ = false) {w : Work σ}
    (howned : Owned w.registry w.surface) : SameOn q w (w.settleAll family wanted) := by
  induction wanted generalizing w with
  | nil => exact .refl q w
  | cons want rest ih =>
    obtain ⟨hfirst, hrest⟩ := List.forall_mem_cons.mp hq
    exact (SameOn.settle howned hfirst want.2).trans (ih hrest (owned_invariant.settle howned _ _))

theorem SameOn.foldl_discard {keys : List DrawingKey} (hq : ∀ key ∈ keys, q key = false)
    {w : Work σ} (howned : Owned w.registry w.surface) :
    SameOn q w (keys.foldl Work.discard w) := by
  induction keys generalizing w with
  | nil => exact .refl q w
  | cons key rest ih =>
    obtain ⟨hfirst, hrest⟩ := List.forall_mem_cons.mp hq
    exact (SameOn.discard howned hfirst).trans (ih hrest (howned.remove key))

/-- The keys that are neither removed nor wanted are left alone. -/
theorem SameOn.reconcile {r : Registry} {s : σ} (howned : Owned r s) {family : DrawingFamily}
    {desired : DesiredDrawings} (hstale : ∀ key ∈ r.staleKeys family desired, q key = false)
    (hwanted : ∀ identity ∈ desired, q ⟨family, identity⟩ = false) :
    SameOn q { registry := r, surface := s } (r.reconcile family desired s) := by
  unfold Registry.reconcile
  refine (SameOn.foldl_discard hstale howned).trans (SameOn.settleAll (fun want hmem => ?_)
    (owned_invariant.foldl_discard _ howned))
  exact hwanted want.1 (mem_identities.mp (List.mem_map_of_mem hmem))

end

/-! ## The one turn of a drawing -/

/-- Handles are never taken back. -/
theorem issued_invariant [LossySurface σ] (handle : Handle) :
    Invariant fun (_ : Registry) (s : σ) => Issued s handle where
  remove {r s} key h := by
    unfold Registry.remove
    split
    · exact (LossySurface.erase_spec _ s).1 _ h
    · exact h
  create {r s key} drawing h _ := by
    unfold Registry.create
    split
    · rename_i hdraw
      exact (LossySurface.draw_some hdraw).2.2.1 _ h
    · rename_i hdraw
      exact (LossySurface.draw_none hdraw).1 _ h
  update h _ hredraw := (LossySurface.redraw_true hredraw).1 _ h
  lost h hredraw := (LossySurface.redraw_false hredraw).1 _ h

section

variable [FaithfulSurface σ]

/-- From `w` to `w'` a drawing had one turn, and nothing else touched it. -/
structure OneTurn (key : DrawingKey) (drawing : Drawing) (w w₁ w₂ w' : Work σ) : Prop where
  turn : Turn key drawing w₁ w₂
  owned : Owned w₁.registry w₁.surface
  issued : ∀ handle, Issued w.surface handle → Issued w₁.surface handle
  before : SameOn (fun k => k = key) w w₁
  after : SameOn (fun k => k = key) w₂ w'

section

variable {key : DrawingKey} {drawing : Drawing} {w w₁ w₂ w' : Work σ}

theorem OneTurn.entry_before (h : OneTurn key drawing w w₁ w₂ w') :
    w₁.registry.entries[key]? = w.registry.entries[key]? := h.before.entries key (decide_eq_true rfl)

theorem OneTurn.entry_after (h : OneTurn key drawing w w₁ w₂ w') :
    w'.registry.entries[key]? = w₂.registry.entries[key]? := h.after.entries key (decide_eq_true rfl)

/-- What the surface holds or has lost before is what it holds or has lost when the turn comes. -/
theorem OneTurn.held_iff (h : OneTurn key drawing w w₁ w₂ w')
    (howned : Owned w.registry w.surface) {entry : RegistryEntry}
    (hentry : w.registry.entries[key]? = some entry) :
    (∃ p ∈ shown w₁.surface, p.handle = entry.handle) ↔
      ∃ p ∈ shown w.surface, p.handle = entry.handle := by
  have hbefore := h.entry_before.trans hentry
  constructor
  · rintro ⟨p, hp, hhandle⟩
    obtain rfl := h.owned.eq_of_handle hbefore hp hhandle
    exact ⟨_, (h.before.mem_shown_iff (decide_eq_true rfl)).mp hp, hhandle⟩
  · rintro ⟨p, hp, hhandle⟩
    obtain rfl := howned.eq_of_handle hentry hp hhandle
    exact ⟨_, (h.before.mem_shown_iff (decide_eq_true rfl)).mpr hp, hhandle⟩

end

theorem Work.exists_turn (family : DrawingFamily) {wanted : List (String × Drawing)}
    (hdistinct : (wanted.map Prod.fst).Nodup) {want : String × Drawing} (hmem : want ∈ wanted)
    {w : Work σ} (howned : Owned w.registry w.surface) :
    ∃ w₁ w₂, OneTurn ⟨family, want.1⟩ want.2 w w₁ w₂ (w.settleAll family wanted) := by
  induction wanted generalizing w with
  | nil => cases hmem
  | cons first rest ih =>
    obtain ⟨hfirst, hdistinct⟩ := List.nodup_cons.mp hdistinct
    rcases List.mem_cons.mp hmem with rfl | hmem
    · have hlater : ∀ other ∈ rest,
          decide ((⟨family, other.1⟩ : DrawingKey) = ⟨family, want.1⟩) = false := by
        intro other hother
        refine decide_eq_false fun heq => hfirst ?_
        rw [← (DrawingKey.mk.inj heq).2]
        exact List.mem_map_of_mem hother
      exact ⟨w, w.settle ⟨family, want.1⟩ want.2, w.turn_settle _ _, howned, fun _ h => h,
        .refl _ w, .settleAll hlater (owned_invariant.settle howned _ _)⟩
    · have hother : decide ((⟨family, first.1⟩ : DrawingKey) = ⟨family, want.1⟩) = false := by
        refine decide_eq_false fun heq => hfirst ?_
        rw [(DrawingKey.mk.inj heq).2]
        exact List.mem_map_of_mem hmem
      obtain ⟨w₁, w₂, h⟩ := ih hdistinct hmem
        (owned_invariant.settle howned ⟨family, first.1⟩ first.2)
      refine ⟨w₁, w₂, h.turn, h.owned, fun handle hissued => h.issued handle ?_,
        (SameOn.settle howned hother first.2).trans h.before, h.after⟩
      exact (issued_invariant handle).settle hissued _ _

/-- **One turn.** In a reconciliation each wanted drawing has its turn, and nothing else touches
it. -/
theorem reconcile_turn {r : Registry} {s : σ} (howned : Owned r s) (family : DrawingFamily)
    {desired : DesiredDrawings} {identity : String} {drawing : Drawing}
    (hwanted : desired[identity]? = some drawing) :
    ∃ w₁ w₂ : Work σ, OneTurn ⟨family, identity⟩ drawing { registry := r, surface := s } w₁ w₂
      (r.reconcile family desired s) := by
  have hmem : (identity, drawing) ∈ desired.toList :=
    Std.ExtTreeMap.mem_toList_iff_getElem?_eq_some.mpr hwanted
  have hstale : ∀ key ∈ r.staleKeys family desired,
      decide (key = (⟨family, identity⟩ : DrawingKey)) = false := by
    intro key hkey
    refine decide_eq_false ?_
    rintro rfl
    exact (mem_staleKeys.mp hkey).2.2 (mem_of_wanted hwanted)
  have hcleared := owned_invariant.foldl_discard (r.staleKeys family desired)
    (w := { registry := r, surface := s }) howned
  obtain ⟨w₁, w₂, h⟩ :=
    Work.exists_turn family (nodup_identities desired) hmem hcleared
  refine ⟨w₁, w₂, h.turn, h.owned, fun handle hissued => h.issued handle ?_,
    (SameOn.foldl_discard hstale howned).trans h.before, h.after⟩
  exact (issued_invariant handle).foldl_discard _ (w := { registry := r, surface := s }) hissued

end

/-! ## One pool -/

/-- A pool, active or swept. -/
def pool (status : PoolStatus) : Pool :=
  { id := "p1", timeframe := ⟨300, by decide⟩, top := 101, bottom := 100, status, kind := "eqh"
    side := .buySide }

def poolWith (status : PoolStatus) : DesiredDrawings :=
  (∅ : DesiredDrawings).insert "p1" (.ofPool (pool status))

/-- It is drawn on a surface that may refuse it later. -/
def drawnPool : Work (Recorded UnsteadySurface) := reconcile .pool (poolWith .active) {} .unmeasured

end ChartLayer.Registry
