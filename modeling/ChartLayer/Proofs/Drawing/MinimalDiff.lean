import ChartLayer.Proofs.Drawing.Balance
import ChartLayer.Proofs.Drawing.Intact

/-!
# No more than is needed

A reconciliation on a surface that has lost nothing does no more than is needed: it leaves the other
families alone, it draws anew only what cannot be changed in place, and its report, together with
the refusals of the surface, accounts for all that is wanted.

* `Drawing.needsNew_of_sameAs`: what looks the same need not be drawn anew.
* `OneTurn.kept`, `OneTurn.renewed`: what becomes of one wanted drawing.
* `minimal_diff`: and of all.
-/

namespace ChartLayer

theorem Drawing.isSome_eq_of_samePrice {x y : Option Float} (h : samePrice x y = true) :
    x.isSome = y.isSome := by
  cases x <;> cases y <;> first | rfl | cases h

/-- What looks the same need not be drawn anew. -/
theorem Drawing.needsNew_of_sameAs {a b : Drawing} (h : a.sameAs b = true) :
    a.needsNew b = false := by
  simp only [sameAs, Bool.and_eq_true, decide_eq_true_eq] at h
  simp [needsNew, h, isSome_eq_of_samePrice h.1.1.1.2]

namespace Registry

open LossySurface (shown Issued refusals)

variable {σ : Type}

/-- A drawing that is asked for under a new handle, and its entry afterwards, if it is not
refused. -/
def AskedAnew [LossySurface σ] (s : σ) (refused : List DrawingKey) (key : DrawingKey)
    (drawing : Drawing) (r' : Registry) : Prop :=
  (key ∈ refused ∧ r'.entries[key]? = none) ∨
    (key ∉ refused ∧ ∃ handle, ¬Issued s handle ∧ r'.entries[key]? = some ⟨handle, drawing⟩)

/-- What a reconciliation of one family may do to registry and surface if the surface refuses
`refused`. -/
structure MinimalDiff [LossySurface σ] (family : DrawingFamily) (desired : DesiredDrawings)
    (r : Registry) (s : σ) (refused : List DrawingKey) (w : Work σ) : Prop where
  /-- The other families are untouched. -/
  others : SameOn (fun k => k.family ≠ family) { registry := r, surface := s } w
  /-- What looks the same or can be changed in place keeps its handle. -/
  kept {identity : String} {entry : RegistryEntry} {drawing : Drawing} :
    r.entries[(⟨family, identity⟩ : DrawingKey)]? = some entry →
      desired[identity]? = some drawing →
        entry.drawing.sameAs drawing = true ∨ entry.drawing.needsNew drawing = false →
          w.registry.entries[(⟨family, identity⟩ : DrawingKey)]? =
            some ⟨entry.handle, if entry.drawing.sameAs drawing then entry.drawing else drawing⟩
  /-- What cannot gets a new one. -/
  renewed {identity : String} {entry : RegistryEntry} {drawing : Drawing} :
    r.entries[(⟨family, identity⟩ : DrawingKey)]? = some entry →
      desired[identity]? = some drawing → entry.drawing.needsNew drawing = true →
        AskedAnew s refused ⟨family, identity⟩ drawing w.registry
  added {identity : String} {drawing : Drawing} :
    r.entries[(⟨family, identity⟩ : DrawingKey)]? = none → desired[identity]? = some drawing →
      AskedAnew s refused ⟨family, identity⟩ drawing w.registry
  gone {identity : String} : identity ∉ desired →
    w.registry.entries[(⟨family, identity⟩ : DrawingKey)]? = none ∧
      ∀ p ∈ shown w.surface, p.key ≠ ⟨family, identity⟩
  removed : w.report.removed =
    ((r.familyKeys family).filter fun k => k.identity ∉ desired).length
  counted : w.report.created + w.report.updated + w.report.recreated + w.report.unchanged +
    refused.length = desired.size
  /-- The surface shows what the registry lists. -/
  agree : Intact w.registry w.surface

section

variable [FaithfulSurface σ] {key : DrawingKey} {drawing : Drawing} {w w₁ w₂ w' : Work σ}

theorem OneTurn.kept (h : OneTurn key drawing w w₁ w₂ w') (hintact : Intact w.registry w.surface)
    {entry : RegistryEntry} (hentry : w.registry.entries[key]? = some entry)
    (hplace : entry.drawing.needsNew drawing = false) :
    w'.registry.entries[key]? =
      some ⟨entry.handle, if entry.drawing.sameAs drawing then entry.drawing else drawing⟩ := by
  have hbefore := h.entry_before.trans hentry
  have hheld := (h.held_iff hintact.toOwned hentry).mpr ⟨_, hintact.drawn hentry, rfl⟩
  -- it has an entry, the surface holds it, and nothing asks for a new one: two ways are left
  have hnew : ¬(entry.drawing.needsNew drawing = true ∨
      ¬∃ p ∈ shown w₁.surface, p.handle = entry.handle) := by
    rw [hplace]
    exact not_or.mpr ⟨Bool.false_ne_true, not_not_intro hheld⟩
  rw [h.entry_after]
  cases h.turn with
  | created _ before => cases hbefore.symm.trans before
  | refused before => cases hbefore.symm.trans before
  | unchanged e before same entries =>
    cases hbefore.symm.trans before
    rw [entries, hbefore, if_pos same]
  | updated e before differs _ _ entries =>
    cases hbefore.symm.trans before
    rw [entries, Std.ExtTreeMap.getElem?_insert_self, if_neg (Bool.eq_false_iff.mp differs)]
  | recreated e _ before _ anew =>
    cases hbefore.symm.trans before
    exact absurd anew hnew
  | dropped e before _ anew =>
    cases hbefore.symm.trans before
    exact absurd anew hnew

/-- A drawing without an entry, or with one that cannot be changed in place, is asked for under a
new handle. -/
theorem OneTurn.renewed (h : OneTurn key drawing w w₁ w₂ w')
    (hnew : ∀ entry, w.registry.entries[key]? = some entry → entry.drawing.needsNew drawing = true) :
    w'.registry.entries[key]? = none ∨ ∃ handle, ¬Issued w.surface handle ∧
      w'.registry.entries[key]? = some ⟨handle, drawing⟩ := by
  rw [h.entry_after]
  cases h.turn with
  | created handle _ fresh entries =>
    refine Or.inr ⟨handle, mt (h.issued handle) fresh, ?_⟩
    rw [entries, Std.ExtTreeMap.getElem?_insert_self]
  | refused before entries => exact Or.inl (entries ▸ before)
  | unchanged e before same =>
    have hanew := hnew e (h.entry_before.symm.trans before)
    cases hanew.symm.trans (Drawing.needsNew_of_sameAs same)
  | updated e before _ inPlace =>
    have hanew := hnew e (h.entry_before.symm.trans before)
    cases hanew.symm.trans inPlace
  | recreated _ handle _ _ _ fresh entries =>
    refine Or.inr ⟨handle, mt (h.issued handle) fresh, ?_⟩
    rw [entries, Std.ExtTreeMap.getElem?_insert_self]
  | dropped _ _ _ _ entries => exact Or.inl (by rw [entries, Std.ExtTreeMap.getElem?_erase_self])

/-- **A minimal diff.** On a surface that still holds all that is in the registry, a reconciliation
leaves the other families alone; of its own family it keeps the handles of the drawings that look
the same or can be changed in place, asks for the others anew, and takes off what is not wanted; and
its counts and the refusals of the surface add up to what is wanted. -/
theorem minimal_diff {s₀ s : σ} {r : Registry} (hempty : shown s₀ = []) (h : Reaches s₀ r s)
    (hheld : ∀ (k : DrawingKey) (e : RegistryEntry), r.entries[k]? = some e →
      ∃ p ∈ shown s, p.handle = e.handle)
    (family : DrawingFamily) (desired : DesiredDrawings) :
    ∃ refused, refusals (r.reconcile family desired s).surface = refused ++ refusals s ∧
      MinimalDiff family desired r s refused (r.reconcile family desired s) := by
  have hintact : Intact r s := intact_of_held (h.owned hempty) hheld
  have hafter := intact_invariant.reconcile hintact family desired
  obtain ⟨refused, hrefusals, hmem, hcounted, -⟩ := reconcile_account family desired r s
  have hanew {identity : String} {drawing : Drawing} (hwanted : desired[identity]? = some drawing)
      (hnew : ∀ entry, r.entries[(⟨family, identity⟩ : DrawingKey)]? = some entry →
        entry.drawing.needsNew drawing = true) :
      AskedAnew s refused ⟨family, identity⟩ drawing (r.reconcile family desired s).registry := by
    obtain ⟨w₁, w₂, hturn⟩ := reconcile_turn hintact.toOwned family hwanted
    rcases hturn.renewed hnew with hnone | ⟨handle, hfresh, hentry⟩
    · exact Or.inl ⟨(hmem _).mpr ⟨rfl, mem_of_wanted hwanted, hnone⟩, hnone⟩
    · refine Or.inr ⟨fun hrefused => ?_, handle, hfresh, hentry⟩
      cases hentry.symm.trans ((hmem _).mp hrefused).2.2
  refine ⟨refused, hrefusals, ?_, ?_, ?_, ?_, ?_, ?_, hcounted, hafter⟩
  · refine .reconcile hintact.toOwned (fun key hstale => ?_) fun identity _ => ?_
    · simp [(mem_staleKeys.mp hstale).2.1]
    · simp
  · intro identity entry drawing hentry hwanted hplace
    obtain ⟨w₁, w₂, hturn⟩ := reconcile_turn hintact.toOwned family hwanted
    exact hturn.kept hintact hentry (hplace.elim Drawing.needsNew_of_sameAs id)
  · intro identity entry drawing hentry hwanted hnew
    refine hanew hwanted fun e he => ?_
    cases hentry.symm.trans he
    exact hnew
  · intro identity drawing hnone hwanted
    refine hanew hwanted fun e he => ?_
    cases hnone.symm.trans he
  · intro identity hnot
    have hnone := getElem?_reconcile_of_not_desired hnot family r s
    refine ⟨hnone, fun p hp hkey => ?_⟩
    cases hnone.symm.trans (hkey ▸ hafter.owner p hp)
  · rw [removed_reconcile]
    refine congrArg List.length (List.filter_congr fun key _ => ?_)
    simp [← Std.ExtTreeMap.contains_iff_mem]

end

/-- A line of some color, with or without a badge on the price axis. -/
def line (color : String) (badge : Bool) : Drawing :=
  { shape := .line, extent := {}, style := { color }, axisLabel := badge }

def yesterdaysLevels : DesiredDrawings :=
  ((∅ : DesiredDrawings).insert "eq" (line "#9e9e9e" true)).insert "pdh" (line "#b0bec5" false)
    |>.insert "pdl" (line "#26a69a" true)

/-- One level changes its color, one gets a badge, one is gone and one is new. -/
def todaysLevels : DesiredDrawings :=
  ((∅ : DesiredDrawings).insert "eq" (line "#b0bec5" true)).insert "pdh" (line "#ef5350" true)
    |>.insert "vwap" (line "#b0bec5" false)

def drawnYesterday : Work (Recorded UnsteadySurface) :=
  reconcile .level yesterdaysLevels {} .unmeasured

/-- The level that gets a badge will be refused. -/
def beforeTheBadge : Recorded UnsteadySurface := drawnYesterday.surface.update (.refuse ["pdh"])

theorem minimal_diff_of_refused_badge :
    shown Recorded.unmeasured = [] ∧
      Reaches Recorded.unmeasured drawnYesterday.registry beforeTheBadge ∧
      ∃ w, w = reconcile .level todaysLevels drawnYesterday.registry beforeTheBadge ∧
        MinimalDiff .level todaysLevels drawnYesterday.registry beforeTheBadge [⟨.level, "pdh"⟩] w ∧
        w.report = { created := 1, updated := 1, removed := 1 } := by
  have hreach : Reaches Recorded.unmeasured drawnYesterday.registry beforeTheBadge :=
    .lose (.reconcile _ _ .start) (List.Subset.refl _) fun _ h => h
  have hintact : Intact drawnYesterday.registry drawnYesterday.surface :=
    intact_invariant.reconcile (intact_of_held (owned_empty rfl) fun _ _ h => by simp at h) _ _
  obtain ⟨refused, hrefusals, hdiff⟩ := minimal_diff rfl hreach
    (fun k e he => ⟨_, hintact.drawn he, rfl⟩) .level todaysLevels
  have hrefused : refused = [⟨.level, "pdh"⟩] := by
    have hnow : refusals beforeTheBadge = [] := by decide +kernel
    rw [hnow, List.append_nil] at hrefusals
    rw [← hrefusals]
    decide +kernel
  subst hrefused
  exact ⟨rfl, hreach, _, rfl, hdiff, by decide +kernel⟩

end Registry

end ChartLayer
