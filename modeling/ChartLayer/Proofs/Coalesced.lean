import ChartLayer.Coalesced
import Mathlib.Data.List.DropRight

/-!
# What a frame is handed

The payload of a task and its request for a frame have lives of their own: canceling drops the one
and keeps the other, and only a frame that comes ends both. So what has been asked of a task is cut
into stretches, one for each frame: a frame is handed the fold of what arrived in its stretch since
the last canceling, and it has been asked for just if something arrived in its stretch at all.

* `stretches`, `folded`: what was asked, cut at the frames, and what a stretch amounts to.
* `Tells.serve_take`, `Tells.serve`: one request.
* `Tells.serveAll`: any run.
* `handed_is_folded`: what each frame is handed, and how many are asked for.
-/

namespace ChartLayer.Coalesced

variable {α : Type}

/-! ## What is asked of a task -/

/-- What is asked of a task. Each merging brings its own rule. -/
inductive Request (α : Type) where
  | push (payload : α)
  | accumulate (merge : α → α → α) (payload : α)
  | take
  | cancel

namespace Request

def isTake : Request α → Bool
  | take => true
  | _ => false

def isCancel : Request α → Bool
  | cancel => true
  | _ => false

/-- Whether a payload arrives. -/
def arrives : Request α → Bool
  | push _ | accumulate _ _ => true
  | _ => false

/-- What waits once a payload has arrived, after what waited before. -/
def absorbed (earlier : Option α) : Request α → Option α
  | push payload => some payload
  | accumulate merge payload => some (earlier.elim payload fun waits => merge waits payload)
  | take | cancel => earlier

end Request

/-- The requests between one frame and the next. -/
def stretches (requests : List (Request α)) : List (List (Request α)) :=
  requests.splitOnP Request.isTake

/-- What a stretch amounts to: the fold of the payloads that arrived since the last canceling. -/
def folded (stretch : List (Request α)) : Option α :=
  (stretch.rtakeWhile fun r => !r.isCancel).foldl Request.absorbed none

theorem folded_concat {stretch : List (Request α)} {r : Request α} (h : r.isCancel = false) :
    folded (stretch ++ [r]) = r.absorbed (folded stretch) := by
  unfold folded
  rw [List.rtakeWhile_concat_pos _ _ _ (by simpa using h), List.foldl_concat]

theorem folded_concat_cancel (stretch : List (Request α)) :
    folded (stretch ++ [.cancel]) = none := by
  unfold folded
  rw [List.rtakeWhile_concat_neg _ _ _ (by simp [Request.isCancel])]
  rfl

/-- Only what arrived can wait. -/
theorem arrives_of_folded {stretch : List (Request α)} (h : (folded stretch).isSome = true) :
    stretch.any Request.arrives = true := by
  induction stretch using List.reverseRecOn with
  | nil => cases h
  | append_singleton stretch r ih =>
    rw [List.any_append, Bool.or_eq_true]
    cases r with
    | push | accumulate => exact Or.inr rfl
    | take =>
      rw [folded_concat rfl] at h
      exact Or.inl (ih h)
    | cancel =>
      rw [folded_concat_cancel] at h
      cases h

/-! ## What it does -/

/-- A task with what it has handed over so far and how many frames it has asked for. -/
structure Ledger (α : Type) where
  task : Coalesced α := {}
  handed : List (Option α) := []
  frames : Nat := 0

namespace Ledger

/-- One request. -/
def serve (l : Ledger α) : Request α → Ledger α
  | .push payload =>
    let (asks, task) := l.task.push payload
    { l with task, frames := l.frames + asks.toNat }
  | .accumulate merge payload =>
    let (asks, task) := l.task.accumulate merge payload
    { l with task, frames := l.frames + asks.toNat }
  | .take =>
    let (payload, task) := l.task.take
    { l with task, handed := l.handed ++ [payload] }
  | .cancel => { l with task := l.task.cancel }

/-- Some requests. -/
def serveAll (l : Ledger α) (requests : List (Request α)) : Ledger α := requests.foldl serve l

end Ledger

/-- A ledger is that of some stretches, each ended by a frame, and of the one that goes on. -/
structure Tells (l : Ledger α) (ended : List (List (Request α))) (current : List (Request α)) :
    Prop where
  handed : l.handed = ended.map folded
  pending : l.task.pending = folded current
  scheduled : l.task.scheduled = current.any Request.arrives
  frames : l.frames = (ended ++ [current]).countP fun stretch => stretch.any Request.arrives

variable {l : Ledger α} {ended : List (List (Request α))} {current : List (Request α)}

/-- **A frame.** It is handed what the stretch amounts to, and a new stretch begins. -/
theorem Tells.serve_take (h : Tells l ended current) :
    Tells (l.serve .take) (ended ++ [current]) [] where
  handed := by
    change l.handed ++ [l.task.pending] = _
    rw [h.handed, h.pending, List.map_append]
    rfl
  pending := rfl
  scheduled := rfl
  frames := by
    have hnew : (([[]] : List (List (Request α))).countP fun s => s.any Request.arrives) = 0 := rfl
    change l.frames = _
    rw [h.frames, List.countP_append, List.countP_append, List.countP_append, hnew, Nat.add_zero]

/-- A payload that arrives asks for a frame if it is the first one of its stretch. -/
theorem Tells.frames_of_arrives (h : Tells l ended current) {r : Request α}
    (harrives : r.arrives = true) : l.frames + (!l.task.scheduled).toNat =
      (ended ++ [current ++ [r]]).countP fun stretch => stretch.any Request.arrives := by
  rw [h.frames, h.scheduled, List.countP_append, List.countP_append, Nat.add_assoc]
  cases hany : current.any Request.arrives <;> simp [hany, harrives]

/-- **Any other request.** The stretch goes on. -/
theorem Tells.serve (h : Tells l ended current) {r : Request α} (hr : r.isTake = false) :
    Tells (l.serve r) ended (current ++ [r]) := by
  cases r with
  | take => cases hr
  | cancel =>
    refine ⟨h.handed, (folded_concat_cancel current).symm, ?_, ?_⟩
    · change l.task.scheduled = _
      simp [h.scheduled, Request.arrives]
    · change l.frames = _
      simp [h.frames, Request.arrives]
  | push payload =>
    refine ⟨h.handed, ?_, ?_, h.frames_of_arrives rfl⟩
    · rw [folded_concat rfl]
      rfl
    · simp [Ledger.serve, push, Request.arrives]
  | accumulate merge payload =>
    refine ⟨h.handed, ?_, ?_, h.frames_of_arrives rfl⟩
    · rw [folded_concat rfl, ← h.pending]
      simp only [Ledger.serve, accumulate, Request.absorbed]
      cases l.task.pending <;> rfl
    · simp [Ledger.serve, accumulate, Request.arrives]

/-- **Any run.** -/
theorem Tells.serveAll (h : Tells l ended current) (hcurrent : ∀ r ∈ current, r.isTake = false)
    (requests : List (Request α)) : ∃ more last, stretches (current ++ requests) = more ++ [last] ∧
      Tells (l.serveAll requests) (ended ++ more) last := by
  have hone : stretches current = [current] := List.splitOnP_eq_singleton hcurrent
  induction requests generalizing l ended current with
  | nil =>
    refine ⟨[], current, ?_, ?_⟩
    · rwa [List.append_nil]
    · rwa [List.append_nil]
  | cons r rest ih =>
    cases hr : r.isTake with
    | true =>
      cases r with
      | take =>
        obtain ⟨more, last, hstretches, htells⟩ := ih h.serve_take (by simp) rfl
        refine ⟨current :: more, last, ?_, ?_⟩
        · rw [stretches, List.splitOnP_append_cons _ _ rfl]
          change stretches current ++ stretches ([] ++ rest) = _
          rw [hone, hstretches]
          rfl
        · rwa [List.append_assoc] at htells
      | push | accumulate | cancel => cases hr
    | false =>
      have hcurrent' : ∀ r' ∈ current ++ [r], r'.isTake = false := by
        simpa [or_imp, forall_and] using ⟨hcurrent, hr⟩
      obtain ⟨more, last, hstretches, htells⟩ :=
        ih (h.serve hr) hcurrent' (List.splitOnP_eq_singleton hcurrent')
      refine ⟨more, last, ?_, htells⟩
      rwa [List.append_assoc] at hstretches

/-- **What a frame is handed.** Of a new task, whatever is asked of it: each frame is handed the
fold of the payloads that arrived since the frame before it or the last canceling, and nothing if
there are none, and what waits at the end is what the next frame would be handed. A payload never
waits without a frame being asked for, and as many frames are asked for as there are stretches
between frames in which a payload arrives, canceled or not. -/
theorem handed_is_folded (requests : List (Request α)) :
    let l := ({} : Ledger α).serveAll requests
    l.handed = (stretches requests).dropLast.map folded ∧
      l.task.pending = (stretches requests).getLast?.bind folded ∧
      (l.task.pending.isSome = true → l.task.scheduled = true) ∧
      l.frames = (stretches requests).countP fun stretch => stretch.any Request.arrives := by
  intro l
  have hnew : Tells ({} : Ledger α) [] [] := ⟨rfl, rfl, rfl, rfl⟩
  obtain ⟨ended, last, hstretches, htells⟩ := hnew.serveAll (by simp) requests
  rw [List.nil_append] at hstretches htells
  rw [hstretches, List.dropLast_concat, List.getLast?_concat]
  refine ⟨htells.handed, htells.pending, fun hwaits => ?_, htells.frames⟩
  rw [htells.pending] at hwaits
  rw [htells.scheduled]
  exact arrives_of_folded hwaits

/-- A payload is canceled, two are merged, and for the second frame nothing arrives. -/
example :
    let l := ({} : Ledger Nat).serveAll
      [.push 1, .cancel, .push 2, .accumulate (· + ·) 3, .take, .take]
    l.handed = [some 5, none] ∧ l.frames = 1 := by
  decide

end ChartLayer.Coalesced
