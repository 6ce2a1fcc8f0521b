import ChartLayer.Proofs.Zone.Answer

/-!
# The order of a delivery does not matter

If no two zones with finite bounds share an id, a request and the same request with its zones in
another order get one answer and leave one selector behind (`answer_eq_of_reordered`), and so do
two runs of such requests (`answers_eq_of_reordered`). What the order could change is gone after
the first stage: the zones delivered are sorted by price, and only zones of one id tie there.
-/

namespace ChartLayer

namespace SelectionRequest

/-- The same request with its zones in some other order. -/
structure Reordered (a b : SelectionRequest) : Prop where
  zones : a.zones.Perm b.zones
  bars : a.bars = b.bars
  view : a.view = b.view
  limit : a.limit = b.limit

/-- No two zones with finite bounds share an id. -/
def Distinct (r : SelectionRequest) : Prop :=
  ((r.zones.filter Zone.hasFiniteBounds).map Zone.id).Nodup

theorem Reordered.finiteZones_perm {a b : SelectionRequest} (h : a.Reordered b) :
    (finiteZones a.zones).Perm (finiteZones b.zones) :=
  (h.zones.filter Zone.hasFiniteBounds).map Zone.ordered

/-- The order is lost in the first stage. -/
theorem Reordered.delivered_eq {a b : SelectionRequest} (h : a.Reordered b) (hd : a.Distinct) :
    a.delivered = b.delivered := by
  have ha : ((finiteZones a.zones).map Zone.id).Nodup := by rw [ids_finiteZones]; exact hd
  have hb : ((finiteZones b.zones).map Zone.id).Nodup :=
    (h.finiteZones_perm.map Zone.id).nodup_iff.mp ha
  unfold delivered
  calc uniqueById (finiteZones a.zones)
      = sortByPrice (finiteZones a.zones) := uniqueById_eq_sortByPrice ha
    _ = sortByPrice (finiteZones b.zones) := sortByPrice_eq_of_perm h.finiteZones_perm ha
    _ = uniqueById (finiteZones b.zones) := (uniqueById_eq_sortByPrice hb).symm

end SelectionRequest

namespace Selector

open SelectionRequest (Reordered Distinct)

/-- One request in two orders. -/
theorem answer_eq_of_reordered {a b : SelectionRequest} (h : a.Reordered b) (hd : a.Distinct)
    (s : Selector) : s.answer a = s.answer b := by
  have hinput : a.zones.length = b.zones.length := h.zones.length_eq
  have hfinite : (finiteZones a.zones).length = (finiteZones b.zones).length :=
    h.finiteZones_perm.length_eq
  have hdelivered : uniqueById (finiteZones a.zones) = uniqueById (finiteZones b.zones) :=
    h.delivered_eq hd
  unfold answer select
  simp only [hinput, hfinite, hdelivered, h.bars, h.view, h.limit]

/-- **Order of delivery.** Two runs whose requests are alike but for the order of their zones have
the same answers, and the selector keeps the same geometry after each of them. -/
theorem answers_eq_of_reordered (s : Selector) {requests others : List SelectionRequest}
    (h : List.Forall₂ Reordered requests others) (hd : ∀ r ∈ requests, r.Distinct) :
    s.answers requests = s.answers others := by
  induction h generalizing s with
  | nil => rfl
  | @cons a b rest rest' hab _ ih =>
    have hanswer := answer_eq_of_reordered hab (hd a List.mem_cons_self) s
    unfold answers
    rw [hanswer, ih (s.answer b).2 fun r hr => hd r (List.mem_cons_of_mem a hr)]

/-! ## Two zones and a broken one -/

/-- A band of a quarter of an hour that has been closed. -/
def closedZone (id : String) (low high : Float) : Zone where
  id := id
  min := low
  max := high
  direction := .neutral
  kind := .orderBlock
  role := .pointOfInterest
  state := .tested
  score := 0.0
  timeframe := quarterHour
  originTime := 0

/-- One request, with its zones in this order. -/
def requestOf (zones : List Zone) : SelectionRequest :=
  ⟨zones, { bars := [⟨900, 100.0, 101.0, 99.0, 100.0, 1.0, true⟩] }, some quarterHour, .near1⟩

theorem reordered_requestOf {zones others : List Zone} (h : zones.Perm others) :
    (requestOf zones).Reordered (requestOf others) := ⟨h, rfl, rfl, rfl⟩

/-- The second zone touches the first; the third repeats an id and has no upper bound. -/
def touchingZones : List Zone :=
  [closedZone "a" 99.0 100.0, closedZone "b" 100.0 101.0, closedZone "a" 99.5 positiveInfinity]

theorem answers_of_touching_zones :
    touchingZones ≠ touchingZones.reverse ∧
      List.Forall₂ Reordered [requestOf touchingZones, requestOf touchingZones.reverse]
        [requestOf touchingZones.reverse, requestOf touchingZones] ∧
      (∀ r ∈ [requestOf touchingZones, requestOf touchingZones.reverse], r.Distinct) ∧
      answers ⟨{}, {}⟩ [requestOf touchingZones, requestOf touchingZones.reverse] =
        answers ⟨{}, {}⟩ [requestOf touchingZones.reverse, requestOf touchingZones] := by
  have hperm : touchingZones.Perm touchingZones.reverse := (List.reverse_perm _).symm
  have hreordered : List.Forall₂ Reordered
      [requestOf touchingZones, requestOf touchingZones.reverse]
      [requestOf touchingZones.reverse, requestOf touchingZones] :=
    .cons (reordered_requestOf hperm) (.cons (reordered_requestOf hperm.symm) .nil)
  have hdistinct : ∀ r ∈ [requestOf touchingZones, requestOf touchingZones.reverse],
      r.Distinct := by
    unfold Distinct; decide +kernel
  exact ⟨by decide +kernel, hreordered, hdistinct,
    answers_eq_of_reordered ⟨{}, {}⟩ hreordered hdistinct⟩

end Selector

end ChartLayer
