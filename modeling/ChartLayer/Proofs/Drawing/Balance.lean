import ChartLayer.Proofs.Drawing.Turns

/-!
# What the report adds up to

The report of a reconciliation counts what was done, not what was refused. The surface knows the
refusals, and both together account for every drawing that is wanted and for the size of the
registry.

* `Turn.account`: one turn is one count or one refusal.
* `Account.cons`: turns of different drawings add up.
* `reconcile_account`: so does a whole reconciliation.
-/

namespace ChartLayer

/-- How many of the drawings wanted a report counts. -/
def Changes.settled (c : Changes) : Nat := c.created + c.updated + c.recreated + c.unchanged

namespace Registry

open LossySurface (refusals)
open Std.ExtTreeMap (getElem?_insert_self getElem?_erase_self)

variable {σ : Type}

/-! ## The size of the registry -/

section

variable {r : Registry} {key : DrawingKey} {entry : RegistryEntry}

theorem contains_of_entry (h : r.entries[key]? = some entry) : r.entries.contains key = true := by
  rw [Std.ExtTreeMap.contains_eq_isSome_getElem?, h]
  rfl

theorem contains_of_none (h : r.entries[key]? = none) : r.entries.contains key = false := by
  rw [Std.ExtTreeMap.contains_eq_isSome_getElem?, h]
  rfl

theorem size_insert_new (h : r.entries[key]? = none) (entry : RegistryEntry) :
    (r.entries.insert key entry).size = r.size + 1 := by
  rw [Std.ExtTreeMap.size_insert, contains_of_none h]
  rfl

theorem size_insert_again (h : r.entries[key]? = some entry) (entry' : RegistryEntry) :
    (r.entries.insert key entry').size = r.size := by
  rw [Std.ExtTreeMap.size_insert, contains_of_entry h]
  rfl

theorem size_erase_entry (h : r.entries[key]? = some entry) :
    (r.entries.erase key).size + 1 = r.size := by
  have hkey : key ∈ r.entries.keys :=
    Std.ExtTreeMap.mem_keys.mpr (Std.ExtTreeMap.contains_iff_mem.mp (contains_of_entry h))
  have hpos : 0 < r.size := by
    unfold size
    rw [← Std.ExtTreeMap.length_keys]
    exact List.length_pos_of_mem hkey
  rw [Std.ExtTreeMap.size_erase, contains_of_entry h, if_pos rfl]
  exact Nat.sub_add_cancel hpos

end

/-! ## Accounts -/

/-- The wanted identities of a family were settled between `w` and `w'`, and those of `refused` were
refused. A refusal costs the registry an entry if there was one. -/
structure Account [LossySurface σ] (family : DrawingFamily) (identities : List String)
    (w w' : Work σ) (refused : List DrawingKey) : Prop where
  rejected : refusals w'.surface = refused ++ refusals w.surface
  mem_refused : ∀ key, key ∈ refused ↔ key.family = family ∧ key.identity ∈ identities ∧
    w'.registry.entries[key]? = none
  settled : w'.report.settled + refused.length = w.report.settled + identities.length
  size : w'.registry.size + (refused.filter w.registry.entries.contains).length + w.report.created =
    w.registry.size + w'.report.created

section

variable [LossySurface σ] {family : DrawingFamily} {w w₁ w' : Work σ}

theorem Account.nil (family : DrawingFamily) (w : Work σ) : Account family [] w w [] where
  rejected := rfl
  mem_refused key := by simp
  settled := rfl
  size := rfl

/-- **Adding up.** A drawing and then the others, all of them different. -/
theorem Account.cons {identity : String} {rest : List String} {first later : List DrawingKey}
    (h : Account family [identity] w w₁ first) (h' : Account family rest w₁ w' later)
    (hnot : identity ∉ rest)
    (hfirst : w'.registry.entries[(⟨family, identity⟩ : DrawingKey)]? =
      w₁.registry.entries[(⟨family, identity⟩ : DrawingKey)]?)
    (hothers : ∀ k, (⟨family, identity⟩ : DrawingKey) ≠ k →
      w₁.registry.entries[k]? = w.registry.entries[k]?) :
    Account family (identity :: rest) w w' (later ++ first) where
  rejected := by rw [h'.rejected, h.rejected, List.append_assoc]
  mem_refused key := by
    simp only [List.mem_append, h.mem_refused, h'.mem_refused, List.mem_cons, List.not_mem_nil,
      or_false]
    by_cases hkey : key = ⟨family, identity⟩
    · subst hkey
      simp [hnot, hfirst]
    · have hidentity : key.family = family → key.identity ≠ identity := by
        rintro rfl hidentity
        exact hkey (hidentity ▸ rfl)
      constructor
      · rintro (⟨hfamily, hmem, hnone⟩ | ⟨hfamily, heq, -⟩)
        · exact ⟨hfamily, Or.inr hmem, hnone⟩
        · exact absurd heq (hidentity hfamily)
      · rintro ⟨hfamily, heq | hmem, hnone⟩
        · exact absurd heq (hidentity hfamily)
        · exact Or.inl ⟨hfamily, hmem, hnone⟩
  settled := by
    have hone := h.settled
    have hrest := h'.settled
    simp only [List.length_append, List.length_cons, List.length_nil] at hone ⊢
    omega
  size := by
    have hsame : later.filter w₁.registry.entries.contains =
        later.filter w.registry.entries.contains := by
      refine List.filter_congr fun key hkey => ?_
      have hne : (⟨family, identity⟩ : DrawingKey) ≠ key := by
        rintro rfl
        exact hnot ((h'.mem_refused _).mp hkey).2.1
      simp only [Std.ExtTreeMap.contains_eq_isSome_getElem?, hothers key hne]
    have hone := h.size
    have hrest := h'.size
    rw [hsame] at hrest
    rw [List.filter_append, List.length_append]
    omega

variable {identity : String}

/-- The key is the only one of its family and identity. -/
theorem mem_singleton_key {key : DrawingKey} :
    key ∈ [(⟨family, identity⟩ : DrawingKey)] ↔ key.family = family ∧ key.identity ∈ [identity] := by
  rw [List.mem_singleton, List.mem_singleton, DrawingKey.mk.injEq]

/-- What is accepted has an entry afterwards. -/
theorem Account.of_accepted {entry : RegistryEntry}
    (after : w'.registry.entries[(⟨family, identity⟩ : DrawingKey)]? = some entry)
    (accepted : refusals w'.surface = refusals w.surface)
    (settled : w'.report.settled = w.report.settled + 1)
    (size : w'.registry.size + w.report.created = w.registry.size + w'.report.created) :
    Account family [identity] w w' [] where
  rejected := accepted
  mem_refused key := by
    refine iff_of_false List.not_mem_nil ?_
    rintro ⟨hfamily, hidentity, hnone⟩
    rw [List.mem_singleton.mp (mem_singleton_key.mpr ⟨hfamily, hidentity⟩), after] at hnone
    cases hnone
  settled := settled
  size := size

/-- What is rejected has none. -/
theorem Account.of_rejected
    (after : w'.registry.entries[(⟨family, identity⟩ : DrawingKey)]? = none)
    (rejected : refusals w'.surface = ⟨family, identity⟩ :: refusals w.surface)
    (report : w'.report = w.report)
    (size : w'.registry.size +
      (if w.registry.entries.contains ⟨family, identity⟩ then 1 else 0) = w.registry.size) :
    Account family [identity] w w' [⟨family, identity⟩] where
  rejected := rejected
  mem_refused key := by
    constructor
    · intro hkey
      obtain ⟨hfamily, hidentity⟩ := mem_singleton_key.mp hkey
      exact ⟨hfamily, hidentity, List.mem_singleton.mp hkey ▸ after⟩
    · rintro ⟨hfamily, hidentity, -⟩
      exact mem_singleton_key.mpr ⟨hfamily, hidentity⟩
  settled := by rw [report]; rfl
  size := by
    rw [report, ← size]
    split <;> rename_i hcontains <;> simp [hcontains]

end

section

variable [FaithfulSurface σ] {family : DrawingFamily} {w w' : Work σ}

/-- **One turn** is one count or one refusal. -/
theorem Turn.account {identity : String} {drawing : Drawing} (h : Turn ⟨family, identity⟩ drawing w w') :
    ∃ refused, Account family [identity] w w' refused := by
  cases h with
  | created handle before _ entries _ accepted report =>
    refine ⟨[], .of_accepted (by rw [entries, getElem?_insert_self]) accepted ?_ ?_⟩
    · simp only [report, Changes.settled]; omega
    · rw [size, entries, size_insert_new before, report]; dsimp only; omega
  | refused before entries _ rejected report =>
    refine ⟨_, .of_rejected (by rw [entries, before]) rejected report ?_⟩
    rw [contains_of_none before, size, entries]; rfl
  | unchanged entry before _ entries _ accepted report =>
    refine ⟨[], .of_accepted (by rw [entries, before]) accepted ?_ ?_⟩
    · simp only [report, Changes.settled]; omega
    · rw [size, entries, report]; rfl
  | updated entry before _ _ _ entries _ accepted report =>
    refine ⟨[], .of_accepted (by rw [entries, getElem?_insert_self]) accepted ?_ ?_⟩
    · simp only [report, Changes.settled]; omega
    · rw [size, entries, size_insert_again before, report]
  | recreated entry handle before _ _ _ entries _ accepted report =>
    refine ⟨[], .of_accepted (by rw [entries, getElem?_insert_self]) accepted ?_ ?_⟩
    · simp only [report, Changes.settled]; omega
    · rw [size, entries, size_insert_again before, report]
  | dropped entry before _ _ entries _ rejected report =>
    refine ⟨_, .of_rejected (by rw [entries, getElem?_erase_self]) rejected report ?_⟩
    rw [contains_of_entry before, if_pos rfl, size, entries, size_erase_entry before]

/-- The wanted drawings are different, so that what the first of them costs no later one repays. -/
theorem Work.account_settleAll (family : DrawingFamily) {wanted : List (String × Drawing)}
    (hdistinct : (wanted.map Prod.fst).Nodup) (w : Work σ) :
    ∃ refused, Account family (wanted.map Prod.fst) w (w.settleAll family wanted) refused := by
  induction wanted generalizing w with
  | nil => exact ⟨[], .nil family w⟩
  | cons want rest ih =>
    obtain ⟨hnew, hdistinct⟩ := List.nodup_cons.mp hdistinct
    obtain ⟨first, hfirst⟩ := (w.turn_settle ⟨family, want.1⟩ want.2).account
    obtain ⟨later, hlater⟩ := ih hdistinct (w.settle ⟨family, want.1⟩ want.2)
    exact ⟨later ++ first, hfirst.cons hlater hnew (getElem?_settleAll_of_notMem hnew family _)
      fun k hk => w.getElem?_settle_of_ne hk want.2⟩

end

section

variable [Surface σ]

theorem Work.size_discard {w : Work σ} {key : DrawingKey} (h : key ∈ w.registry.entries) :
    (w.discard key).registry.size + 1 = w.registry.size := by
  obtain ⟨entry, hentry⟩ := Option.isSome_iff_exists.mp
    (Std.ExtTreeMap.mem_iff_isSome_getElem?.mp h)
  unfold discard
  rw [remove_of_entry hentry]
  exact size_erase_entry hentry

theorem Work.size_foldl_discard {keys : List DrawingKey} (hdistinct : keys.Nodup) {w : Work σ}
    (hkeys : ∀ key ∈ keys, key ∈ w.registry.entries) :
    (keys.foldl Work.discard w).registry.size + keys.length = w.registry.size := by
  induction keys generalizing w with
  | nil => rfl
  | cons key rest ih =>
    obtain ⟨hnew, hdistinct⟩ := List.nodup_cons.mp hdistinct
    obtain ⟨hfirst, hrest⟩ := List.forall_mem_cons.mp hkeys
    have hothers : ∀ other ∈ rest, other ∈ (w.discard key).registry.entries := by
      intro other hother
      have hne : key ≠ other := by rintro rfl; exact hnew hother
      rw [Std.ExtTreeMap.mem_iff_isSome_getElem?, w.getElem?_discard key other, if_neg hne]
      exact Std.ExtTreeMap.mem_iff_isSome_getElem?.mp (hrest other hother)
    have hlater := ih hdistinct hothers
    have hone := size_discard hfirst
    rw [List.foldl_cons, List.length_cons]
    omega

/-- Of the counts only that of the removals moves. -/
theorem Work.report_foldl_discard (keys : List DrawingKey) (w : Work σ) :
    (keys.foldl Work.discard w).report =
      { w.report with removed := w.report.removed + keys.length } := by
  induction keys generalizing w with
  | nil => rfl
  | cons key rest ih =>
    have hfirst : (w.discard key).report = { w.report with removed := w.report.removed + 1 } := rfl
    rw [List.foldl_cons, ih, hfirst, List.length_cons]
    simp only [Nat.add_assoc, Nat.add_comm 1]

theorem nodup_staleKeys (family : DrawingFamily) (desired : DesiredDrawings) (r : Registry) :
    (r.staleKeys family desired).Nodup :=
  (Std.ExtTreeMap.nodup_keys.filter _).filter _

end

/-! ## The report of a reconciliation -/

/-- **The balance.** The counts and the refusals of a reconciliation account for all that is wanted
and for the size of the registry, in which a refusal costs an entry if there was one. -/
theorem reconcile_account [FaithfulSurface σ] (family : DrawingFamily) (desired : DesiredDrawings)
    (r : Registry) (s : σ) :
    ∃ refused, refusals (r.reconcile family desired s).surface = refused ++ refusals s ∧
      (∀ key, key ∈ refused ↔ key.family = family ∧ key.identity ∈ desired ∧
        (r.reconcile family desired s).registry.entries[key]? = none) ∧
      (r.reconcile family desired s).report.settled + refused.length = desired.size ∧
      (r.reconcile family desired s).registry.size +
          (r.reconcile family desired s).report.removed +
          (refused.filter r.entries.contains).length =
        r.size + (r.reconcile family desired s).report.created := by
  have hremoved := removed_reconcile family desired r s
  have hsize := Work.size_foldl_discard (nodup_staleKeys family desired r)
    (w := { registry := r, surface := s }) fun key hkey => (mem_staleKeys.mp hkey).1
  have hreport := Work.report_foldl_discard (r.staleKeys family desired)
    { registry := r, surface := s }
  have hrefusals := Work.refusals_foldl_discard { registry := r, surface := s }
    (r.staleKeys family desired)
  have hentries := fun key => Work.getElem?_foldl_discard (r.staleKeys family desired) key
    { registry := r, surface := s }
  simp only [reconcile] at hremoved ⊢
  generalize (r.staleKeys family desired).foldl Work.discard { registry := r, surface := s } =
    cleared at *
  obtain ⟨refused, h⟩ := cleared.account_settleAll family (nodup_identities desired)
  have hmem : ∀ key, key ∈ refused ↔ key.family = family ∧ key.identity ∈ desired ∧
      (cleared.settleAll family desired.toList).registry.entries[key]? = none := by
    intro key
    rw [h.mem_refused, mem_identities]
  -- what is refused is wanted, so its entry is not one of those that were removed at first
  have hentered : refused.filter cleared.registry.entries.contains =
      refused.filter r.entries.contains := by
    refine List.filter_congr fun key hkey => ?_
    have hkept : key ∉ r.staleKeys family desired := fun hstale =>
      (mem_staleKeys.mp hstale).2.2 ((hmem key).mp hkey).2.1
    simp only [Std.ExtTreeMap.contains_eq_isSome_getElem?, hentries key, if_neg hkept]
  have hsettled := h.settled
  have hbalance := h.size
  rw [List.length_map, Std.ExtTreeMap.length_toList, hreport] at hsettled
  rw [hentered, hreport] at hbalance
  dsimp only [Changes.settled] at hsize hsettled hbalance ⊢
  exact ⟨refused, h.rejected.trans (congrArg (refused ++ ·) hrefusals), hmem, by omega, by omega⟩

end Registry

end ChartLayer
