import ChartLayer.Proofs.Zone.Accounts
import ChartLayer.Proofs.Zone.DeliveryOrder

/-!
# Corrupt zones change nothing

A zone with a bound that is not finite is gone after the first stage. So it takes no identity away
from a good zone, keeps none alive, moves no band and names none: but for two counts, a request gets
the selection that it would get without its corrupt zones, and it leaves the same selector behind.

* `WithCorrupt`: some zones, and the same with corrupt ones put in.
* `answer_of_corrupted`: one request.
* `corrupt_zones_are_inert`: one request and any run of them.
-/

namespace ChartLayer

/-! ## Corrupt zones put in -/

/-- Zones, and the same zones with corrupt ones among them: any number of them, in any places, under
any identities. -/
inductive WithCorrupt : List Zone → List Zone → Prop
  | nil : WithCorrupt [] []
  | keep {zones dirty : List Zone} (z : Zone) :
    WithCorrupt zones dirty → WithCorrupt (z :: zones) (z :: dirty)
  | insert {zones dirty : List Zone} {z : Zone} :
    z.hasFiniteBounds = false → WithCorrupt zones dirty → WithCorrupt zones (z :: dirty)

theorem WithCorrupt.finiteZones_eq {zones dirty : List Zone} (h : WithCorrupt zones dirty) :
    finiteZones dirty = finiteZones zones := by
  unfold finiteZones
  congr 1
  induction h with
  | nil => rfl
  | keep z _ ih => rw [List.filter_cons, List.filter_cons, ih]
  | insert hcorrupt _ ih => rw [List.filter_cons_of_neg (by simp [hcorrupt]), ih]

theorem WithCorrupt.length_le {zones dirty : List Zone} (h : WithCorrupt zones dirty) :
    zones.length ≤ dirty.length := by
  induction h with
  | nil => exact Nat.le_refl _
  | keep z _ ih => exact Nat.succ_le_succ ih
  | insert _ _ ih => exact Nat.le_succ_of_le ih

namespace SelectionRequest

/-- The same request with corrupt zones put in. -/
structure Corrupted (r dirty : SelectionRequest) : Prop where
  zones : WithCorrupt r.zones dirty.zones
  bars : dirty.bars = r.bars
  view : dirty.view = r.view
  limit : dirty.limit = r.limit

/-- How many more zones another request has. -/
def extra (r dirty : SelectionRequest) : Nat := dirty.zones.length - r.zones.length

end SelectionRequest

/-- The same selection, with `n` corrupt zones counted in. -/
def Selection.counting (n : Nat) (out : Selection) : Selection :=
  { out with
    stats :=
      { out.stats with input := out.stats.input + n, nonFinite := out.stats.nonFinite + n } }

namespace Selector

open SelectionRequest (Corrupted extra)

/-! ## One request -/

/-- **One request.** What is corrupt is counted, and that is all that comes of it. -/
theorem answer_of_corrupted {r dirty : SelectionRequest} (h : r.Corrupted dirty) (s : Selector) :
    s.answer dirty = ((s.answer r).1.counting (r.extra dirty), (s.answer r).2) := by
  have hfinite : finiteZones dirty.zones = finiteZones r.zones := h.zones.finiteZones_eq
  have hinput : dirty.zones.length = r.zones.length + r.extra dirty :=
    (Nat.add_sub_cancel' h.zones.length_le).symm
  have hle := length_finiteZones_le r.zones
  have hnonFinite : dirty.zones.length - (finiteZones r.zones).length =
      r.zones.length - (finiteZones r.zones).length + r.extra dirty := by
    omega
  unfold answer select
  simp only [hfinite, hnonFinite, h.bars, h.view, h.limit]
  rw [hinput]
  cases r.bars.reference? <;> rfl

/-! ## Any run -/

/-- **Corrupt zones are inert.** In every state of a selector, a request with corrupt zones put in
gets the selection of the request without them, but for the counts of zones delivered and of those
without finite bounds, and leaves the same selector behind. So a run of such requests goes as the
run of the requests without them. -/
theorem corrupt_zones_are_inert (s : Selector) :
    (∀ r dirty : SelectionRequest, r.Corrupted dirty →
      s.answer dirty = ((s.answer r).1.counting (r.extra dirty), (s.answer r).2)) ∧
    ∀ requests dirties : List SelectionRequest, List.Forall₂ Corrupted requests dirties →
      s.answers dirties =
        (s.answers requests).zipWith (fun out n => (out.1.counting n, out.2))
          (requests.zipWith extra dirties) := by
  constructor
  · intro r dirty h
    exact answer_of_corrupted h s
  · intro requests dirties h
    induction h generalizing s with
    | nil => rfl
    | @cons r dirty _ _ h _ ih =>
      have hanswer := answer_of_corrupted h s
      simp only [answers, List.zipWith_cons_cons]
      rw [hanswer, ih (s.answer r).2]

/-- A zone whose upper bound is an infinity. -/
def unbounded (id : String) : Zone := closedZone id 99.5 positiveInfinity

theorem corrupted_requestOf {zones dirty : List Zone} (h : WithCorrupt zones dirty) :
    (requestOf zones).Corrupted (requestOf dirty) := ⟨h, rfl, rfl, rfl⟩

theorem unbounded_corrupt (id : String) : (unbounded id).hasFiniteBounds = false := by
  change (Float.isFinite 99.5 && positiveInfinity.isFinite) = false
  decide +kernel

/-- The corrupt zones come before and behind the good ones. One repeats an identity and would be the
better candidate, one brings an identity that was delivered before and is not any more. -/
theorem corrupt_zones_among_touching :
    let requests := [requestOf touchingZones, requestOf [closedZone "a" 99.0 100.0]]
    let dirties := [requestOf ({ unbounded "a" with state := .fresh } :: touchingZones),
      requestOf [closedZone "a" 99.0 100.0, unbounded "b"]]
    List.Forall₂ Corrupted requests dirties ∧
      answers ⟨{}, {}⟩ dirties =
        (answers ⟨{}, {}⟩ requests).zipWith (fun out n => (out.1.counting n, out.2)) [1, 1] := by
  have hfirst : WithCorrupt touchingZones ({ unbounded "a" with state := .fresh } :: touchingZones) :=
    .insert (unbounded_corrupt "a") (.keep _ (.keep _ (.keep _ .nil)))
  have hsecond : WithCorrupt [closedZone "a" 99.0 100.0]
      [closedZone "a" 99.0 100.0, unbounded "b"] :=
    .keep _ (.insert (unbounded_corrupt "b") .nil)
  have hcorrupt : List.Forall₂ Corrupted
      [requestOf touchingZones, requestOf [closedZone "a" 99.0 100.0]]
      [requestOf ({ unbounded "a" with state := .fresh } :: touchingZones),
        requestOf [closedZone "a" 99.0 100.0, unbounded "b"]] :=
    .cons (corrupted_requestOf hfirst) (.cons (corrupted_requestOf hsecond) .nil)
  exact ⟨hcorrupt, (corrupt_zones_are_inert ⟨{}, {}⟩).2 _ _ hcorrupt⟩

end Selector

end ChartLayer
