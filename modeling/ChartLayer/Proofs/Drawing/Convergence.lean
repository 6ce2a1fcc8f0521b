import ChartLayer.Proofs.Drawing.Balance
import ChartLayer.Proofs.Drawing.Mirror

/-!
# Bringing a surface in line

The registry believes that the surface shows what it was told to show; the surface may have lost
some of it. A reconciliation that is not refused brings the surface in line with what is wanted,
with one exception: a drawing that looks as it should is not looked after, and if the surface has
lost it, it stays lost.

* `OneTurn.looksLike`, `OneTurn.existsUnique_shown`: what the turn of one drawing brings about.
* `brings_in_line`: and a whole reconciliation.
* `overlooked_loss`: the exception on a single pool.
-/

namespace ChartLayer.Registry

open LossySurface (shown refusals)
open Std.ExtTreeMap (getElem?_insert_self getElem?_erase_self)

variable {σ : Type}

/-- A drawing that looks as it should has been lost. -/
def Overlooked [LossySurface σ] (r : Registry) (s : σ) (key : DrawingKey) (drawing : Drawing) : Prop :=
  ∃ entry, r.entries[key]? = some entry ∧ entry.drawing.sameAs drawing = true ∧
    ¬∃ p ∈ shown s, p.handle = entry.handle

section

variable [FaithfulSurface σ] {key : DrawingKey} {drawing : Drawing} {w w₁ w₂ w' : Work σ}

/-- What has an entry after its turn looks as it should. -/
theorem OneTurn.looksLike (h : OneTurn key drawing w w₁ w₂ w') {entry : RegistryEntry}
    (hentry : w'.registry.entries[key]? = some entry) : entry.drawing.LooksLike drawing := by
  rw [h.entry_after] at hentry
  cases h.turn with
  | created _ _ _ entries =>
    rw [entries, getElem?_insert_self] at hentry
    cases hentry
    exact Or.inl rfl
  | refused before entries =>
    rw [entries, before] at hentry
    cases hentry
  | unchanged e before same entries =>
    rw [entries, before] at hentry
    cases hentry
    exact Or.inr same
  | updated _ _ _ _ _ entries =>
    rw [entries, getElem?_insert_self] at hentry
    cases hentry
    exact Or.inl rfl
  | recreated _ _ _ _ _ _ entries =>
    rw [entries, getElem?_insert_self] at hentry
    cases hentry
    exact Or.inl rfl
  | dropped _ _ _ _ entries =>
    rw [entries, getElem?_erase_self] at hentry
    cases hentry

/-- What is touched and not refused is shown. -/
theorem OneTurn.exists_shown_of_differs (h : OneTurn key drawing w w₁ w₂ w')
    (haccepted : w'.registry.entries[key]? ≠ none)
    (hdiffers : ∀ entry, w.registry.entries[key]? = some entry →
      entry.drawing.sameAs drawing = false) : ∃ p ∈ shown w'.surface, p.key = key := by
  have hshown (handle : Handle) (hmem : ⟨handle, key, drawing⟩ ∈ shown w₂.surface) :
      ∃ p ∈ shown w'.surface, p.key = key :=
    ⟨_, (h.after.mem_shown_iff (decide_eq_true rfl)).mpr hmem, rfl⟩
  rw [h.entry_after] at haccepted
  cases h.turn with
  | created handle _ _ _ drawings =>
    exact hshown handle (by rw [drawings]; exact List.mem_append_right _ (by simp))
  | refused before entries => exact absurd (entries ▸ before) haccepted
  | unchanged e before same =>
    cases (hdiffers e (h.entry_before.symm.trans before)).symm.trans same
  | updated e before _ _ held _ drawings =>
    obtain ⟨p, hp, hhandle⟩ := held
    obtain rfl := h.owned.eq_of_handle before hp hhandle
    refine hshown e.handle ?_
    rw [drawings]
    exact List.mem_map.mpr ⟨_, hp, if_pos rfl⟩
  | recreated _ handle _ _ _ _ _ drawings =>
    exact hshown handle (by rw [drawings]; exact List.mem_append_right _ (by simp))
  | dropped _ _ _ _ entries =>
    rw [entries, getElem?_erase_self] at haccepted
    exact absurd rfl haccepted

/-- What looks as it should is shown if it was. -/
theorem OneTurn.exists_shown_of_same (h : OneTurn key drawing w w₁ w₂ w')
    (howned : Owned w.registry w.surface) {entry : RegistryEntry}
    (hentry : w.registry.entries[key]? = some entry) (hsame : entry.drawing.sameAs drawing = true) :
    (∃ p ∈ shown w'.surface, p.key = key) ↔ ∃ p ∈ shown w.surface, p.handle = entry.handle := by
  have hbefore := h.entry_before.trans hentry
  have hturn : shown w₂.surface = shown w₁.surface := by
    cases h.turn with
    | created _ before => cases hbefore.symm.trans before
    | refused _ _ drawings => exact drawings
    | unchanged _ _ _ _ drawings => exact drawings
    | updated e before differs =>
      cases hbefore.symm.trans before
      cases hsame.symm.trans differs
    | recreated e _ before differs =>
      cases hbefore.symm.trans before
      cases hsame.symm.trans differs
    | dropped e before differs =>
      cases hbefore.symm.trans before
      cases hsame.symm.trans differs
  rw [← h.held_iff howned hentry, ← hturn]
  constructor
  · rintro ⟨p, hp, rfl⟩
    have hshown := (h.after.mem_shown_iff (decide_eq_true rfl)).mp hp
    have hown := h.owned.owner p (hturn ▸ hshown)
    rw [hbefore, Option.some.injEq] at hown
    exact ⟨p, hshown, by rw [hown]⟩
  · rintro ⟨p, hp, hhandle⟩
    obtain rfl := h.owned.eq_of_handle hbefore (hturn ▸ hp) hhandle
    exact ⟨_, (h.after.mem_shown_iff (decide_eq_true rfl)).mpr hp, rfl⟩

/-- **One drawing.** After its turn it is shown, unless it was overlooked. -/
theorem OneTurn.exists_shown_iff (h : OneTurn key drawing w w₁ w₂ w')
    (howned : Owned w.registry w.surface) (haccepted : w'.registry.entries[key]? ≠ none) :
    (∃ p ∈ shown w'.surface, p.key = key) ↔ ¬Overlooked w.registry w.surface key drawing := by
  by_cases hsame : ∃ entry, w.registry.entries[key]? = some entry ∧
      entry.drawing.sameAs drawing = true
  · obtain ⟨entry, hentry, hsame⟩ := hsame
    rw [h.exists_shown_of_same howned hentry hsame]
    constructor
    · rintro hheld ⟨e, he, -, hlost⟩
      cases hentry.symm.trans he
      exact hlost hheld
    · intro hnot
      by_contra hlost
      exact hnot ⟨entry, hentry, hsame, hlost⟩
  · refine iff_of_true (h.exists_shown_of_differs haccepted fun entry hentry => ?_) ?_
    · exact Bool.eq_false_iff.mpr fun hsame' => hsame ⟨entry, hentry, hsame'⟩
    · rintro ⟨entry, hentry, hsame', -⟩
      exact hsame ⟨entry, hentry, hsame'⟩

/-- **In line, but for what is overlooked.** A reconciliation that is not refused leaves of its
family only what is wanted, as it is wanted, and shows all of it, each drawing once, except for
those that look as they should and are lost: they stay lost. -/
theorem brings_in_line {s₀ s : σ} {r : Registry} (hempty : shown s₀ = []) (h : Reaches s₀ r s)
    (family : DrawingFamily) (desired : DesiredDrawings)
    (haccepted : refusals (r.reconcile family desired s).surface = refusals s) :
    (∀ p ∈ shown (r.reconcile family desired s).surface, p.key.family = family →
      ∃ drawing, desired[p.key.identity]? = some drawing ∧ p.drawing.LooksLike drawing) ∧
    ∀ identity drawing, desired[identity]? = some drawing →
      ((∃! p, p ∈ shown (r.reconcile family desired s).surface ∧ p.key = ⟨family, identity⟩) ↔
        ¬Overlooked r s ⟨family, identity⟩ drawing) ∧
      (Overlooked r s ⟨family, identity⟩ drawing →
        ∀ p ∈ shown (r.reconcile family desired s).surface, p.key ≠ ⟨family, identity⟩) := by
  have howned : Owned r s := h.owned hempty
  have hafter := owned_invariant.reconcile howned family desired
  obtain ⟨refused, hrefusals, hmem, -, -⟩ := reconcile_account family desired r s
  rw [haccepted, List.self_eq_append_left] at hrefusals
  subst hrefusals
  constructor
  · rintro ⟨handle, ⟨family, identity⟩, shape⟩ hp rfl
    have hentry := hafter.owner _ hp
    cases hwanted : desired[identity]? with
    | none =>
      have hnone := getElem?_reconcile_of_not_desired (not_mem_of_unwanted hwanted) family r s
      cases hnone.symm.trans hentry
    | some drawing =>
      obtain ⟨w₁, w₂, hturn⟩ := reconcile_turn howned _ hwanted
      exact ⟨drawing, rfl, hturn.looksLike hentry⟩
  · intro identity drawing hwanted
    have hentered : (r.reconcile family desired s).registry.entries[
        (⟨family, identity⟩ : DrawingKey)]? ≠ none := fun hnone =>
      List.not_mem_nil ((hmem ⟨family, identity⟩).mpr ⟨rfl, mem_of_wanted hwanted, hnone⟩)
    obtain ⟨w₁, w₂, hturn⟩ := reconcile_turn howned family hwanted
    have hiff := hturn.exists_shown_iff howned hentered
    constructor
    · rw [← hiff]
      constructor
      · exact fun hunique => hunique.exists
      · rintro ⟨p, hp, hkey⟩
        exact ⟨p, ⟨hp, hkey⟩, fun q ⟨hq, hq_key⟩ => hafter.eq_of_key_eq hq hp (hq_key.trans hkey.symm)⟩
    · intro hlost p hp hkey
      exact hiff.mp ⟨p, hp, hkey⟩ hlost

end

/-! ## One pool -/

/-- The pool is lost. -/
def lostPool : Recorded UnsteadySurface := drawnPool.surface.update (.lose ⟨1⟩)

theorem shown_lostPool : shown lostPool = [] := by decide +kernel

theorem reaches_lostPool : Reaches .unmeasured drawnPool.registry lostPool :=
  .lose (.reconcile _ _ .start) (by rw [shown_lostPool]; exact List.nil_subset _) fun _ h => h

/-- It is lost and then swept: it is drawn again. -/
theorem swept_pool_comes_back :
    shown Recorded.unmeasured = [] ∧ Reaches .unmeasured drawnPool.registry lostPool ∧
      shown lostPool = [] ∧
      ∃ w, w = reconcile .pool (poolWith .swept) drawnPool.registry lostPool ∧
        refusals w.surface = refusals lostPool ∧
        ∃! p, p ∈ shown w.surface ∧ p.key = ⟨.pool, "p1"⟩ := by
  have haccepted : refusals (reconcile .pool (poolWith .swept) drawnPool.registry lostPool).surface =
      refusals lostPool := by decide +kernel
  refine ⟨rfl, reaches_lostPool, shown_lostPool, _, rfl, haccepted, ?_⟩
  refine (((brings_in_line rfl reaches_lostPool .pool (poolWith .swept) haccepted).2 "p1" _
    (getElem?_insert_self)).1).mpr ?_
  rintro ⟨entry, hentry, hsame, -⟩
  have hswept : (drawnPool.registry.drawing? ⟨.pool, "p1"⟩).map
      (·.sameAs (.ofPool (pool .swept))) = some false := by decide +kernel
  rw [drawing?, hentry, Option.map_some, Option.map_some, Option.some.injEq] at hswept
  cases hsame.symm.trans hswept

/-- **Overlooked.** It is lost and wanted as it was: nobody refuses it, and it does not come
back. -/
theorem overlooked_loss :
    Reaches .unmeasured drawnPool.registry lostPool ∧
      ∃ w, w = reconcile .pool (poolWith .active) drawnPool.registry lostPool ∧
        refusals w.surface = refusals lostPool ∧ "p1" ∈ poolWith .active ∧
        shown w.surface = [] ∧ w.report = { unchanged := 1 } := by
  refine ⟨reaches_lostPool, _, rfl, ?_, ?_, ?_, ?_⟩ <;> decide +kernel

end ChartLayer.Registry
