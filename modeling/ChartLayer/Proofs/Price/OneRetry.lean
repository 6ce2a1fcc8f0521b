import ChartLayer.Proofs.Price.Deferral
import ChartLayer.Proofs.Price.ValidScale

/-!
# What becomes of a gesture that waits

A gesture that lacks geometry waits for a retry. There is one place to wait, and another gesture
that is deferred meanwhile takes it: the first one is gone without a retry. Gestures may be equal,
so the requests of a run are numbered, and it is by the number of the request which deferred it that
a gesture is told from others.

* `deferred_serve`: what one request does to the gesture that waits.
* `WaitsUntil.slot`, `exists_waitsUntil`: which gesture waits after any run of them.
* `one_end_each`: by the time of a retry each gesture that was deferred before has been retried
  once, or it has been displaced.
* `retry_lost`: two gestures that wait, of which the first is never retried.
-/

namespace ChartLayer.PriceScale

/-! ## One request -/

namespace Request

/-- The gesture that comes with a request. -/
def gesture? : Request → Option (Gesture Float)
  | .handle g _ => some g
  | _ => none

def isRetry : Request → Bool
  | .retry _ => true
  | _ => false

def isClear : Request → Bool
  | .clear => true
  | _ => false

end Request

/-- The request defers its gesture. -/
def defers (s : PriceScale Float) : Request → Bool
  | .handle g map => (s.handle g map).1.deferred
  | _ => false

/-- Whatever waits does not wait any more after the request. -/
def takes (s : PriceScale Float) (r : Request) : Bool := s.defers r || r.isRetry || r.isClear

theorem takes_of_defers {s : PriceScale Float} {r : Request} (h : s.defers r = true) :
    s.takes r = true := by
  unfold takes
  rw [h]
  rfl

theorem takes_of_isRetry {r : Request} (s : PriceScale Float) (h : r.isRetry = true) :
    s.takes r = true := by
  unfold takes
  rw [h, Bool.or_true]
  rfl

theorem takes_of_isClear {r : Request} (s : PriceScale Float) (h : r.isClear = true) :
    s.takes r = true := by
  unfold takes
  rw [h, Bool.or_true]

theorem exists_gesture_of_defers {s : PriceScale Float} {r : Request} (h : s.defers r = true) :
    ∃ g, r.gesture? = some g := by
  cases r with
  | handle g map => exact ⟨g, rfl⟩
  | _ => cases h

/-- **One request.** A gesture that is deferred takes the place of the one that waits, and a retry
leaves the place empty. -/
theorem deferred_serve (s : PriceScale Float) (r : Request) :
    (s.serve r).deferred =
      if s.defers r then r.gesture? else if s.takes r then none else s.deferred := by
  cases r with
  | handle g map =>
    change (s.handle g map).2.deferred = if (s.handle g map).1.deferred then some g else
      if ((s.handle g map).1.deferred || false || false) then none else s.deferred
    cases hdeferred : (s.handle g map).1.deferred with
    | true =>
      rcases handle_deferred hdeferred with hafter | ⟨_, _, -, hafter⟩ <;> rw [hafter] <;> rfl
    | false =>
      rcases s.deferred_handle g map with hnow | hkept
      · rw [hdeferred] at hnow
        cases hnow
      · exact hkept
  | retry map => exact s.deferred_retry map
  | autoscale prices =>
    change (s.autoscale _).2.deferred = s.deferred
    unfold autoscale
    split <;> rfl
  | applyManual a b =>
    change (s.serve (.applyManual a b)).deferred = s.deferred
    unfold serve
    dsimp only
    split <;> rfl
  | release | dropDrag | clear => rfl

theorem deferred_serve_of_quiet {s : PriceScale Float} {r : Request} (h : ¬s.takes r = true) :
    (s.serve r).deferred = s.deferred := by
  have hdefers : ¬s.defers r = true := fun hdefers => h (takes_of_defers hdefers)
  rw [deferred_serve, if_neg hdefers, if_neg h]

/-! ## A run -/

variable {rules : GestureRules Float} {requests : List Request}

/-- The scale after some requests. -/
def scaleAfter (rules : GestureRules Float) (requests : List Request) : PriceScale Float :=
  requests.foldl serve { rules }

/-- `P` holds of the `n`-th request and the scale that it meets. -/
def Meets (rules : GestureRules Float) (requests : List Request) (n : Nat)
    (P : PriceScale Float → Request → Prop) : Prop :=
  ∃ r, requests[n]? = some r ∧ P (scaleAfter rules (requests.take n)) r

theorem scaleAfter_take_succ {n : Nat} {r : Request} (h : requests[n]? = some r) :
    scaleAfter rules (requests.take (n + 1)) = (scaleAfter rules (requests.take n)).serve r := by
  unfold scaleAfter
  rw [List.take_add_one, h, Option.toList_some, List.foldl_append]
  rfl

/-- After a retry nothing waits. -/
theorem deferred_take_succ {n : Nat} {r : Request} (h : requests[n]? = some r)
    (hretry : r.isRetry = true) : (scaleAfter rules (requests.take (n + 1))).deferred = none := by
  rw [scaleAfter_take_succ h]
  cases r with
  | retry map => exact deferred_retry _ map
  | _ => cases hretry

theorem Meets.lt {n : Nat} {P : PriceScale Float → Request → Prop} (h : Meets rules requests n P) :
    n < requests.length := by
  obtain ⟨r, hr, -⟩ := h
  exact (List.getElem?_eq_some_iff.mp hr).1

theorem Meets.imp {n : Nat} {P Q : PriceScale Float → Request → Prop} (h : Meets rules requests n P)
    (hPQ : ∀ s r, P s r → Q s r) : Meets rules requests n Q := by
  obtain ⟨r, hr, hP⟩ := h
  exact ⟨r, hr, hPQ _ _ hP⟩

/-! ## Waiting -/

/-- The gesture that request `i` deferred waits when request `n` comes: nothing between has taken
its place. -/
structure WaitsUntil (rules : GestureRules Float) (requests : List Request) (i n : Nat) : Prop where
  later : i < n
  deferred : Meets rules requests i fun s r => s.defers r = true
  since : ∀ k, i < k → k < n → ¬Meets rules requests k fun s r => s.takes r = true

/-- One of two requests that both defer a gesture takes the place of the other. -/
theorem WaitsUntil.unique {i i' n : Nat} (h : WaitsUntil rules requests i n)
    (h' : WaitsUntil rules requests i' n) : i = i' := by
  rcases Nat.lt_trichotomy i i' with hlt | heq | hgt
  · exact absurd (h'.deferred.imp fun _ _ => takes_of_defers) (h.since i' hlt h'.later)
  · exact heq
  · exact absurd (h.deferred.imp fun _ _ => takes_of_defers) (h'.since i hgt h.later)

/-- **The gesture that waits.** It is the one that was deferred. -/
theorem WaitsUntil.slot {i n : Nat} (h : WaitsUntil rules requests i n)
    (hn : n ≤ requests.length) :
    ∃ g, (Meets rules requests i fun _ r => r.gesture? = some g) ∧
      (scaleAfter rules (requests.take n)).deferred = some g := by
  obtain ⟨r, hr, hdefers⟩ := h.deferred
  obtain ⟨g, hg⟩ := exists_gesture_of_defers hdefers
  refine ⟨g, ⟨r, hr, hg⟩, ?_⟩
  have hlater : i + 1 ≤ n := h.later
  have hsince := h.since
  clear h
  induction n, hlater using Nat.le_induction with
  | base => rw [scaleAfter_take_succ hr, deferred_serve, if_pos hdefers, hg]
  | succ n hin ih =>
    obtain ⟨r', hr'⟩ : ∃ r', requests[n]? = some r' := ⟨_, List.getElem?_eq_getElem hn⟩
    have hquiet : ¬(scaleAfter rules (requests.take n)).takes r' = true :=
      fun htakes => hsince n hin (Nat.lt_succ_self n) ⟨r', hr', htakes⟩
    rw [scaleAfter_take_succ hr', deferred_serve_of_quiet hquiet]
    exact ih (Nat.le_of_lt hn) fun k hik hkn => hsince k hik (Nat.lt_succ_of_lt hkn)

/-- And whatever waits was deferred. -/
theorem exists_waitsUntil {n : Nat} (hn : n ≤ requests.length) {g : Gesture Float}
    (hslot : (scaleAfter rules (requests.take n)).deferred = some g) :
    ∃ i, WaitsUntil rules requests i n := by
  induction n with
  | zero => cases hslot
  | succ n ih =>
    obtain ⟨r, hr⟩ : ∃ r, requests[n]? = some r := ⟨_, List.getElem?_eq_getElem hn⟩
    by_cases hdefers : (scaleAfter rules (requests.take n)).defers r = true
    · exact ⟨n, Nat.lt_succ_self n, ⟨r, hr, hdefers⟩, fun k hnk hkn => by omega⟩
    · rw [scaleAfter_take_succ hr, deferred_serve, if_neg hdefers] at hslot
      by_cases htakes : (scaleAfter rules (requests.take n)).takes r = true
      · rw [if_pos htakes] at hslot
        cases hslot
      · rw [if_neg htakes] at hslot
        obtain ⟨i, hlater, hdeferred, hsince⟩ := ih (Nat.le_of_lt hn) hslot
        refine ⟨i, Nat.lt_succ_of_lt hlater, hdeferred, fun k hik hkn hk => ?_⟩
        rcases Nat.lt_succ_iff_lt_or_eq.mp hkn with hlt | rfl
        · exact hsince k hik hlt hk
        · obtain ⟨r', hr', hk⟩ := hk
          rw [hr, Option.some.injEq] at hr'
          exact htakes (hr' ▸ hk)

/-! ## The end of waiting -/

/-- Request `n` retries the gesture that request `i` deferred. -/
structure Retries (rules : GestureRules Float) (requests : List Request) (i n : Nat) : Prop where
  waits : WaitsUntil rules requests i n
  applies : ∃ g, (Meets rules requests i fun _ r => r.gesture? = some g) ∧
    Meets rules requests n fun s r => r.isRetry = true ∧ s.deferred = some g

/-- Request `n` puts a gesture in the place of the one that request `i` deferred, or clears it. -/
structure Displaces (rules : GestureRules Float) (requests : List Request) (i n : Nat) : Prop where
  waits : WaitsUntil rules requests i n
  other : Meets rules requests n fun s r => s.defers r = true ∨ r.isClear = true

/-- The waiting of the gesture that request `i` deferred ends with request `n`. -/
def Ends (rules : GestureRules Float) (requests : List Request) (i n : Nat) : Prop :=
  Retries rules requests i n ∨ Displaces rules requests i n

theorem Ends.waits {i n : Nat} (h : Ends rules requests i n) : WaitsUntil rules requests i n :=
  h.elim Retries.waits Displaces.waits

theorem Ends.takes {i n : Nat} (h : Ends rules requests i n) :
    Meets rules requests n fun s r => s.takes r = true := by
  rcases h with ⟨-, g, -, hretry⟩ | ⟨-, hother⟩
  · exact hretry.imp fun s _ h => takes_of_isRetry s h.1
  · refine hother.imp fun s r h => ?_
    rcases h with hdefers | hclear
    · exact takes_of_defers hdefers
    · exact takes_of_isClear s hclear

/-- What takes the place of a gesture ends its waiting. -/
theorem WaitsUntil.ends {i n : Nat} (h : WaitsUntil rules requests i n)
    (htakes : Meets rules requests n fun s r => s.takes r = true) : Ends rules requests i n := by
  obtain ⟨g, hg, hslot⟩ := h.slot htakes.lt.le
  obtain ⟨r, hr, htakes⟩ := htakes
  unfold takes at htakes
  rw [Bool.or_eq_true, Bool.or_eq_true] at htakes
  rcases htakes with (hdefers | hretry) | hclear
  · exact Or.inr ⟨h, r, hr, Or.inl hdefers⟩
  · exact Or.inl ⟨h, g, hg, r, hr, hretry, hslot⟩
  · exact Or.inr ⟨h, r, hr, Or.inr hclear⟩

/-- A gesture does not wait after its end. -/
theorem Ends.le_of_waits {i n m : Nat} (h : Ends rules requests i n)
    (hwaits : WaitsUntil rules requests i m) : m ≤ n :=
  not_lt.mp fun hlt => hwaits.since n h.waits.later hlt h.takes

/-- **One end.** Before a retry is over, the waiting of a gesture that was deferred earlier ends. -/
theorem existsUnique_end {i j : Nat}
    (hdeferred : Meets rules requests i fun s r => s.defers r = true) (hij : i < j)
    (hretry : Meets rules requests j fun _ r => r.isRetry = true) :
    ∃! n, n ≤ j ∧ Ends rules requests i n := by
  classical
  have hretry := hretry.imp fun s _ => takes_of_isRetry s
  have hends : ∃ n, i < n ∧ Meets rules requests n fun s r => s.takes r = true := ⟨j, hij, hretry⟩
  -- the first request after `i` that takes anything
  obtain ⟨hlater, htakes⟩ := Nat.find_spec hends
  have hwaits : WaitsUntil rules requests i (Nat.find hends) :=
    ⟨hlater, hdeferred, fun k hik hkn hk => Nat.find_min hends hkn ⟨hik, hk⟩⟩
  have hend := hwaits.ends htakes
  refine ⟨Nat.find hends, ⟨Nat.find_min' hends ⟨hij, hretry⟩, hend⟩, ?_⟩
  rintro n ⟨-, hn⟩
  exact le_antisymm (hend.le_of_waits hn.waits) (hn.le_of_waits hwaits)

/-- **What becomes of a gesture that waits.** In any run, what waits is the gesture deferred last,
unless a retry or `clear` came since. Up to a retry the waiting of each gesture that was deferred
earlier has ended, and just once: it has been retried, or another gesture or `clear` has taken its
place. After its retry a gesture does not wait any more, and no retry is of two gestures. -/
theorem one_end_each (rules : GestureRules Float) (requests : List Request) :
    (∀ n ≤ requests.length, ∀ g, (scaleAfter rules (requests.take n)).deferred = some g ↔
      ∃ i, WaitsUntil rules requests i n ∧
        Meets rules requests i fun _ r => r.gesture? = some g) ∧
    (∀ i j, (Meets rules requests i fun s r => s.defers r = true) → i < j →
      (Meets rules requests j fun _ r => r.isRetry = true) →
      ∃! n, n ≤ j ∧ (Retries rules requests i n ∨ Displaces rules requests i n)) ∧
    (∀ i n, Retries rules requests i n →
      (scaleAfter rules (requests.take (n + 1))).deferred = none ∧
        ∀ m, WaitsUntil rules requests i m → m ≤ n) ∧
    ∀ i i' n, Retries rules requests i n → Retries rules requests i' n → i = i' := by
  refine ⟨fun n hn g => ⟨fun hslot => ?_, ?_⟩, fun i j => existsUnique_end, fun i n h => ⟨?_, ?_⟩,
    fun i i' n h h' => h.waits.unique h'.waits⟩
  · obtain ⟨i, hwaits⟩ := exists_waitsUntil hn hslot
    obtain ⟨g', hg', hslot'⟩ := hwaits.slot hn
    rw [hslot, Option.some.injEq] at hslot'
    exact ⟨i, hwaits, hslot' ▸ hg'⟩
  · rintro ⟨i, hwaits, r, hr, hg⟩
    obtain ⟨g', ⟨r', hr', hg'⟩, hslot⟩ := hwaits.slot hn
    rw [hr, Option.some.injEq] at hr'
    rw [hslot, ← hg', ← hr', hg]
  · obtain ⟨g, -, r, hr, hretry, -⟩ := h.applies
    exact deferred_take_succ hr hretry
  · exact fun _ => Ends.le_of_waits (Or.inl h)

/-- A wheel on the plot, twice, before the pane has a size; then two retries. -/
def twoWheels : List Request :=
  let wheel : Gesture Float := .wheel 250.0 100.0 true .plot
  [.autoscale (some (100.0, 110.0)), .handle wheel unmeasuredPane, .handle wheel unmeasuredPane,
    .retry measuredPane, .retry measuredPane]

/-- The second wheel waits until the first retry. -/
theorem second_wheel_retried :
    let rules := ({} : Settings).gestures
    Retries rules twoWheels 2 3 ∧
      ∃! n, n ≤ 4 ∧ (Retries rules twoWheels 2 n ∨ Displaces rules twoWheels 2 n) := by
  intro rules
  have hdeferred : Meets rules twoWheels 2 fun s r => s.defers r = true :=
    ⟨_, rfl, by decide +kernel⟩
  have hwaits : WaitsUntil rules twoWheels 2 3 :=
    ⟨Nat.lt_succ_self 2, hdeferred, fun k hik hkn => by omega⟩
  obtain ⟨g, hg, hslot⟩ := hwaits.slot (by decide)
  exact ⟨⟨hwaits, g, hg, _, rfl, rfl, hslot⟩,
    (one_end_each rules twoWheels).2.1 2 4 hdeferred (by decide) ⟨_, rfl, rfl⟩⟩

/-- **A retry is lost.** The first wheel is deferred and never retried, although two retries follow
and nothing is cleared. The second retry finds nothing. -/
theorem retry_lost :
    let rules := ({} : Settings).gestures
    (Meets rules twoWheels 1 fun s r => s.defers r = true) ∧
      (Meets rules twoWheels 3 fun _ r => r.isRetry = true) ∧
      (Meets rules twoWheels 4 fun s r => r.isRetry = true ∧ s.deferred = none) ∧
      (∀ r ∈ twoWheels, r.isClear = false) ∧ ∀ n, ¬Retries rules twoWheels 1 n := by
  intro rules
  have hfirst : Meets rules twoWheels 1 fun s r => s.defers r = true :=
    ⟨_, rfl, by decide +kernel⟩
  have hsecond : Meets rules twoWheels 2 fun s r => s.defers r = true :=
    ⟨_, rfl, by decide +kernel⟩
  have hdisplaced : Ends rules twoWheels 1 2 :=
    Or.inr ⟨⟨Nat.lt_succ_self 1, hfirst, fun k hik hkn => by omega⟩, hsecond.imp fun _ _ => Or.inl⟩
  refine ⟨hfirst, ⟨_, rfl, rfl⟩, ⟨_, rfl, rfl, by decide +kernel⟩, ?_, fun n h => ?_⟩
  · simp [twoWheels, Request.isClear]
  · obtain rfl : n = 2 := le_antisymm (hdisplaced.le_of_waits h.waits)
      (Ends.le_of_waits (Or.inl h) hdisplaced.waits)
    obtain ⟨g, -, r, hr, hretry, -⟩ := h.applies
    cases hr
    cases hretry

end ChartLayer.PriceScale
