import ChartLayer.Proofs.Price.OneRetry
import Mathlib.Data.List.DropRight

/-!
# The range of the series is a faithful cache

While the reader has the scale in hand, the scale keeps the last range that its series asked for: a
gesture may start from it, and the pane goes back to it. A series works out its own range only when
it is asked, and it is asked only without a manual range. Here whatever is worked out leaves its
answer in a log, and `clear` leaves a mark. The log knows nothing of the scale, and it says what the
scale keeps (`auto_caches_answers`).

* `autoscaleBy`, `autoscaleBy_eq`: a query asks for the range of the series once, or not at all.
* `auto_handle`, `auto_retry`: no gesture touches what is kept.
* `serveLogged_run`, `auto_serve`: what one request leaves in the log, and that it is what is kept.
* `runLogged_spec`: any run of requests.
-/

namespace ChartLayer.PriceScale

/-! ## Asking a series -/

section Query

variable {α : Type} {m : Type → Type} [Monad m]

/-- What a series is told that works out its own range by `base`, if it has to. -/
def autoscaleBy (base : m (Option (PriceRange α))) (s : PriceScale α) :
    m (Option (PriceRange α) × PriceScale α) :=
  match s.manual with
  | some r => pure (some r, s)
  | none => do
    let own ← base
    return (own, { s with auto := own.or s.auto })

/-- **Once, or not at all.** Whatever else working out a range may do, it is done once without a
manual range, and not at all with one. -/
theorem autoscaleBy_eq [LawfulMonad m] (base : m (Option (PriceRange α))) (s : PriceScale α) :
    s.autoscaleBy base =
      if s.consultsBase then (fun own => s.autoscale own) <$> base else pure (s.autoscale none) := by
  cases h : s.manual with
  | some r => simp only [autoscaleBy, consultsBase, autoscale, h, Option.isNone_some,
      Bool.false_eq_true, if_false]
  | none =>
    simp only [autoscaleBy, consultsBase, autoscale, h, Option.isNone_none, if_true,
      map_eq_pure_bind]

end Query

/-! ## Gestures -/

section Gestures

variable {α : Type} [Quantity α] (s : PriceScale α)

/-- A gesture may start from what is kept, and leaves it as it is. -/
theorem auto_handle (g : Gesture α) (map : PriceMap α) : (s.handle g map).2.auto = s.auto := by
  have hafter := (s.sameBehind_apply g map).auto
  unfold handle
  split <;> rename_i heq <;> rw [heq] at hafter <;> exact hafter

theorem auto_retry (map : PriceMap α) : (s.retry map).2.auto = s.auto := by
  unfold retry
  split
  · rfl
  · rename_i g _
    have hafter := (sameBehind_apply { s with deferred := none } g map).auto
    split <;> rename_i heq <;> rw [heq] at hafter <;> exact hafter

end Gestures

/-! ## The log -/

/-- What is left in the log: the answer of a series that was asked, or the mark of `clear`. -/
inductive Entry where
  | answered (range : Option (PriceRange Float))
  | cleared

namespace Entry

def isCleared : Entry → Bool
  | cleared => true
  | answered _ => false

/-- The answer of a series, which may be that it has no range. -/
def answer? : Entry → Option (Option (PriceRange Float))
  | answered range => some range
  | cleared => none

end Entry

/-- The last range among the answers since the last mark. -/
def lastAnswer (log : List Entry) : Option (PriceRange Float) :=
  ((log.rtakeWhile fun e => !e.isCleared).filterMap fun e => e.answer?.join).getLast?

theorem lastAnswer_append_answered (log : List Entry) (range : Option (PriceRange Float)) :
    lastAnswer (log ++ [.answered range]) = range.or (lastAnswer log) := by
  rw [lastAnswer, List.rtakeWhile_concat_pos _ _ _ rfl, List.filterMap_append]
  cases range with
  | none => exact congrArg List.getLast? (List.append_nil _)
  | some r => exact List.getLast?_concat

theorem lastAnswer_append_cleared (log : List Entry) :
    lastAnswer (log ++ [.cleared]) = none := by
  rw [lastAnswer, List.rtakeWhile_concat_neg _ _ _ Bool.false_ne_true]
  rfl

/-! ## Requests that are logged -/

namespace Request

/-- What the series of a request answers, if it is asked. -/
def base? : Request → Option (Option (PriceRange Float))
  | .autoscale prices => some (prices.bind fun p => PriceRange.of? p.1 p.2)
  | _ => none

end Request

/-- Working out a range leaves the answer in the log. -/
def logged (range : Option (PriceRange Float)) :
    StateM (List Entry) (Option (PriceRange Float)) := do
  modify (· ++ [.answered range])
  return range

/-- One request, of which only the series and `clear` leave anything in the log. -/
def serveLogged (s : PriceScale Float) : Request → StateM (List Entry) (PriceScale Float)
  | .autoscale prices => do
    let (_, s) ← s.autoscaleBy (logged (prices.bind fun p => PriceRange.of? p.1 p.2))
    return s
  | .clear => do
    modify (· ++ [.cleared])
    return s.clear
  | request => return s.serve request

/-- The scale after some requests, and the log that they leave. -/
def runLogged (rules : GestureRules Float) (requests : List Request) :
    PriceScale Float × List Entry :=
  ((requests.foldlM serveLogged { rules }).run []).run

/-- What one request leaves in the log. -/
def entries (s : PriceScale Float) : Request → List Entry
  | .autoscale prices =>
    if s.manual.isNone then [.answered (prices.bind fun p => PriceRange.of? p.1 p.2)] else []
  | .clear => [.cleared]
  | _ => []

/-- **One request.** The log does not change what it does. -/
theorem serveLogged_run (s : PriceScale Float) (request : Request) (log : List Entry) :
    ((s.serveLogged request).run log).run = (s.serve request, log ++ s.entries request) := by
  cases request with
  | autoscale prices =>
    rw [serveLogged, autoscaleBy_eq, serve, entries, consultsBase]
    cases h : s.manual with
    | some r =>
      have hkept (own : Option (PriceRange Float)) : s.autoscale own = (some r, s) := by
        rw [autoscale, h]
      simp [hkept]
    | none => rfl
  | clear => rfl
  | applyManual | handle | retry | release | dropDrag =>
    exact Prod.ext rfl (List.append_nil log).symm

theorem answers_entries (s : PriceScale Float) (request : Request) :
    (s.entries request).filterMap Entry.answer? =
      if s.manual.isNone then request.base?.toList else [] := by
  cases request with
  | autoscale prices =>
    rw [entries]
    split <;> rfl
  | clear | applyManual | handle | retry | release | dropDrag => exact (ite_self _).symm

theorem auto_applyManual (s : PriceScale Float) (a b : Float) :
    (s.serve (.applyManual a b)).auto = s.auto := by
  rw [serve]
  split <;> rfl

/-- What is kept after a request is what the log says then, if it was so before. -/
theorem auto_serve {s : PriceScale Float} {log : List Entry} (h : s.auto = lastAnswer log)
    (request : Request) : (s.serve request).auto = lastAnswer (log ++ s.entries request) := by
  have hquiet {after : PriceScale Float} (hkept : after.auto = s.auto) :
      after.auto = lastAnswer (log ++ []) := by
    rw [hkept, h, List.append_nil]
  cases request with
  | autoscale prices =>
    rw [serve, entries, autoscale]
    cases s.manual with
    | some r => exact hquiet rfl
    | none =>
      dsimp only
      rw [h, Option.isNone_none, if_pos rfl, lastAnswer_append_answered]
  | clear => exact (lastAnswer_append_cleared log).symm
  | handle g map => exact hquiet (auto_handle s g map)
  | retry map => exact hquiet (auto_retry s map)
  | applyManual a b => exact hquiet (auto_applyManual s a b)
  | release | dropDrag => exact hquiet rfl

/-! ## A run -/

theorem runLogged_concat (rules : GestureRules Float) (requests : List Request)
    (request : Request) :
    runLogged rules (requests ++ [request]) =
      (((runLogged rules requests).1.serveLogged request).run (runLogged rules requests).2).run := by
  simp only [runLogged, List.foldlM_append, List.foldlM_cons, List.foldlM_nil, bind_pure,
    StateT.run_bind]
  rfl

/-- **A run.** It is the run without the log, and what is kept is what the log says. -/
theorem runLogged_spec (rules : GestureRules Float) (requests : List Request) :
    (runLogged rules requests).1 = scaleAfter rules requests ∧
      (scaleAfter rules requests).auto = lastAnswer (runLogged rules requests).2 := by
  induction requests using List.reverseRecOn with
  | nil => exact ⟨rfl, rfl⟩
  | append_singleton requests request ih =>
    obtain ⟨hscale, hauto⟩ := ih
    have hafter : scaleAfter rules (requests ++ [request]) =
        (scaleAfter rules requests).serve request := List.foldl_concat ..
    rw [runLogged_concat, serveLogged_run, hscale, hafter]
    exact ⟨rfl, auto_serve hauto request⟩

/-- **The range of the series is a faithful cache.** After any run of requests, what is kept is the
last range that a series answered since the last `clear`. The next request asks a series just if it
is a query and there is no manual range. Gestures, retries, manual ranges, resets and dropped drags
leave what is kept as it is; and after a reset, also by a double click on the price axis, it is the
range shown. -/
theorem auto_caches_answers (rules : GestureRules Float) (requests : List Request) :
    let s := scaleAfter rules requests
    let log := (runLogged rules requests).2
    (runLogged rules requests).1 = s ∧
      (∀ request, (runLogged rules (requests ++ [request])).2.filterMap Entry.answer? =
        log.filterMap Entry.answer? ++ if s.manual.isNone then request.base?.toList else []) ∧
      s.auto = lastAnswer log ∧
      ((∀ g map, (s.serve (.handle g map)).auto = s.auto) ∧
        (∀ map, (s.serve (.retry map)).auto = s.auto) ∧
        (∀ a b, (s.serve (.applyManual a b)).auto = s.auto) ∧
        (s.serve .release).auto = s.auto ∧ (s.serve .dropDrag).auto = s.auto) ∧
      (s.serve .release).effective = (s.serve .release).auto ∧
      ∀ map, let reset := s.serve (.handle (.doubleClick .priceAxis) map)
        reset.effective = reset.auto := by
  intro s log
  obtain ⟨hscale, hauto⟩ := runLogged_spec rules requests
  refine ⟨hscale, ?asked, hauto,
    ⟨auto_handle s, auto_retry s, auto_applyManual s, rfl, rfl⟩, rfl, fun _ => rfl⟩
  case asked =>
    intro request
    rw [runLogged_concat, serveLogged_run, hscale, List.filterMap_append, answers_entries]

end ChartLayer.PriceScale
