import ChartLayer.Proofs.Layer.Content
import ChartLayer.Proofs.Layer.Held
import ChartLayer.Proofs.Layer.Reset
import Mathlib.Data.List.SplitBy

/-!
# Bursts of the wheel

A reader who turns the wheel turns it many times between two frames, and the price scale is handed
few turns for them. Which ones cannot be read off the layer, since a turn that does nothing leaves
no trace. A `Watched` layer therefore does what the layer does, and calls the scale in one place
only (`handOver`), where it notes the gesture down. Turns of one kind that follow each other are a
run, and `whole?` is the one turn for it.

* `layer_passGesture`: what the layer does with a gesture is to hand it over and follow the answer.
* `layer_run`: whether a layer is watched makes no difference to it.
* `Mid.continue`, `Mid.change`: in the middle of a burst, the turn that waits is the whole of the
  run so far; the next turn is merged into it, or has it handed over.
* `wheels_regrouped`: a burst and the frame after it hand over the whole of each run, in order.
-/

namespace ChartLayer

/-- The turn of the wheel that a gesture is. -/
def Gesture.turn? : Gesture Float → Option WheelTurn
  | .wheel y delta modifier region => some ⟨y, delta, modifier, region⟩
  | _ => none

/-! ## Runs of turns -/

namespace WheelTurn

/-- The sum from left to right. Rounding depends on the order, and a zero in front would change the
sign of a sum of nothing but `-0`. -/
def total : List Float → Float
  | [] => 0.0
  | first :: rest => rest.foldl (· + ·) first

/-- The one turn for a run of turns: where the last of them is, as far as all of them. -/
def whole? (run : List WheelTurn) : Option WheelTurn :=
  run.getLast?.map fun last => { last with delta := total (run.map (·.delta)) }

theorem total_concat {deltas : List Float} (h : deltas ≠ []) (delta : Float) :
    total (deltas ++ [delta]) = total deltas + delta := by
  cases deltas with
  | nil => exact absurd rfl h
  | cons first rest => exact List.foldl_concat _ _ _ _

/-- A run that goes on is merged into what stands for it. -/
theorem whole?_concat {run : List WheelTurn} {waiting : WheelTurn} (h : whole? run = some waiting)
    (turn : WheelTurn) : whole? (run ++ [turn]) = some (waiting.merge turn) := by
  obtain ⟨last, hlast, rfl⟩ := Option.map_eq_some_iff.mp h
  have hne : run.map (·.delta) ≠ [] := by
    rw [Ne, List.map_eq_nil_iff]
    rintro rfl
    cases hlast
  unfold whole?
  rw [List.getLast?_concat, List.map_append, List.map_singleton, total_concat hne]
  rfl

/-- What stands for a run goes with the same turns as the last of the run. -/
theorem sameTarget_of_whole? {run : List WheelTurn} {waiting last : WheelTurn}
    (h : whole? run = some waiting) (hlast : run.getLast? = some last) (turn : WheelTurn) :
    waiting.sameTarget turn = last.sameTarget turn := by
  unfold whole? at h
  rw [hlast] at h
  cases h
  rfl

theorem whole?_eq_none_iff {run : List WheelTurn} : whole? run = none ↔ run = [] := by
  rw [whole?, Option.map_eq_none_iff, List.getLast?_eq_none_iff]

/-- Turns of one kind are one run, if there are any. -/
theorem map_whole?_splitBy {run : List WheelTurn}
    (h : run.IsChain fun a b => a.sameTarget b) :
    (run.splitBy sameTarget).map whole? = (whole? run).toList.map some := by
  cases hwhole : whole? run with
  | none =>
    rw [whole?_eq_none_iff.mp hwhole]
    rfl
  | some waiting =>
    have hne : run ≠ [] := by
      rintro rfl
      cases hwhole
    rw [List.splitBy_of_isChain hne h, List.map_singleton, hwhole]
    rfl

end WheelTurn

/-- A turn of the wheel that waits for the frame, merged with the one that waits already. -/
def Layer.keepTurn {σ : Type} [Surface σ] (turn : WheelTurn) (l : Layer σ) : Layer σ :=
  let (asks, wheel) := l.wheel.accumulate WheelTurn.merge turn
  { l with wheel }.askFrameIf asks

theorem Layer.pending_keepTurn {σ : Type} [Surface σ] (turn : WheelTurn) (l : Layer σ) :
    (l.keepTurn turn).wheel.pending = some (l.wheel.pending.elim turn (·.merge turn)) := by
  have hwheel : (l.keepTurn turn).wheel = (l.wheel.accumulate WheelTurn.merge turn).2 :=
    congrArg Held.wheel (held_askFrameIf _ _)
  rw [hwheel, Coalesced.accumulate]
  cases l.wheel.pending <;> rfl

/-! ## A layer that is watched -/

/-- A layer, and the gestures that it has handed to its price scale. Retries are not noted down:
they hand over nothing new. -/
structure Watched (σ : Type) where
  layer : Layer σ
  handed : List (Gesture Float) := []

namespace Watched

variable {σ : Type}

/-- Work in which no gesture is handed over. -/
def quietly (f : Layer σ → Layer σ) (w : Watched σ) : Watched σ := { w with layer := f w.layer }

/-- The turns of the wheel among what has been handed over. -/
def turns (w : Watched σ) : List WheelTurn := w.handed.filterMap Gesture.turn?

variable [Surface σ]

/-- The price scale is handed a gesture, which is noted down. -/
def handOver (g : Gesture Float) (w : Watched σ) : GestureEffect × Watched σ :=
  let (effect, scale) := w.layer.scale.handle g (Surface.priceMap w.layer.surface)
  (effect, { layer := { w.layer with scale }, handed := w.handed ++ [g] })

def passGesture (g : Gesture Float) (w : Watched σ) : Watched σ :=
  let (effect, w) := w.handOver g
  w.quietly (·.carryOut effect)

def settleWheel (w : Watched σ) : Watched σ :=
  match w.layer.wheel.take with
  | (some turn, wheel) => (w.quietly fun l => { l with wheel }).passGesture turn.toGesture
  | (none, wheel) => w.quietly fun l => { l with wheel }

def settlePointer (w : Watched σ) : Watched σ :=
  match w.layer.pointer.take with
  | (some spot, pointer) => (w.quietly fun l => { l with pointer }).passGesture spot.toGesture
  | (none, pointer) => w.quietly fun l => { l with pointer }

def pushWheel (turn : WheelTurn) (w : Watched σ) : Watched σ :=
  (if w.layer.wheel.pending.any fun waiting => !waiting.sameTarget turn then w.settleWheel
    else w).quietly (·.keepTurn turn)

def gesture (g : Gesture Float) (w : Watched σ) : Watched σ :=
  match g with
  | .pointerMove x y => w.quietly (·.pushPointer ⟨x, y⟩)
  | .wheel y delta modifier region => w.pushWheel ⟨y, delta, modifier, region⟩
  | g => w.settleWheel.settlePointer.passGesture g

def frame (w : Watched σ) : Watched σ :=
  (w.quietly (·.retryGesture)).settleWheel.settlePointer.quietly (·.settleLabels)

/-- One command. Only gestures and frames hand gestures over, and only before the end. -/
def step (w : Watched σ) (c : Command) : Watched σ :=
  if w.layer.disposed then w.quietly (·.step c)
  else
    match c with
    | .gesture g => w.gesture g
    | .frame => w.frame
    | c => w.quietly (·.step c)

def run (commands : List Command) (w : Watched σ) : Watched σ := commands.foldl step w

/-! ## Watching changes nothing -/

variable (w : Watched σ)

theorem layer_passGesture (g : Gesture Float) :
    (w.passGesture g).layer = w.layer.passGesture g :=
  rfl

theorem layer_settleWheel : w.settleWheel.layer = w.layer.settleWheel := by
  unfold settleWheel Layer.settleWheel Coalesced.take
  cases w.layer.wheel.pending with
  | none => rfl
  | some turn => exact layer_passGesture _ _

theorem layer_settlePointer : w.settlePointer.layer = w.layer.settlePointer := by
  unfold settlePointer Layer.settlePointer Coalesced.take
  cases w.layer.pointer.pending with
  | none => rfl
  | some spot => exact layer_passGesture _ _

theorem layer_pushWheel (turn : WheelTurn) :
    (w.pushWheel turn).layer = w.layer.pushWheel turn := by
  unfold pushWheel Layer.pushWheel
  cases w.layer.wheel.pending.any fun waiting => !waiting.sameTarget turn with
  | false => rfl
  | true => exact congrArg (Layer.keepTurn turn) (layer_settleWheel w)

theorem layer_gesture (g : Gesture Float) : (w.gesture g).layer = w.layer.gesture g := by
  have hsettled (g : Gesture Float) : (w.settleWheel.settlePointer.passGesture g).layer =
      w.layer.settleWheel.settlePointer.passGesture g := by
    rw [layer_passGesture, layer_settlePointer, layer_settleWheel]
  cases g with
  | pointerMove x y => rfl
  | wheel y delta modifier region => exact layer_pushWheel w _
  | pointerDown | pointerUp | pointerCancel | blur | doubleClick => exact hsettled _

theorem layer_frame : w.frame.layer = w.layer.frame := by
  have hsettled := layer_settlePointer (w.quietly (·.retryGesture)).settleWheel
  rw [layer_settleWheel] at hsettled
  exact congrArg Layer.settleLabels hsettled

theorem layer_step (c : Command) : (w.step c).layer = w.layer.step c := by
  unfold step
  cases hdisposed : w.layer.disposed with
  | true => rfl
  | false =>
    cases c with
    | gesture g => rw [Layer.step_of_live hdisposed]; exact layer_gesture w g
    | frame => rw [Layer.step_of_live hdisposed]; exact layer_frame w
    | _ => rfl

/-- **Watching.** A layer that is watched does what it does unwatched. -/
theorem layer_run (commands : List Command) (w : Watched σ) :
    (w.run commands).layer = w.layer.run commands := by
  induction commands generalizing w with
  | nil => rfl
  | cons c rest ih =>
    have hrest := ih (w.step c)
    rw [layer_step] at hrest
    exact hrest

/-! ## What a step hands over -/

theorem turns_settleWheel :
    w.settleWheel.turns = w.turns ++ w.layer.wheel.pending.toList := by
  unfold settleWheel Coalesced.take turns
  cases w.layer.wheel.pending with
  | none => exact (List.append_nil _).symm
  | some turn => exact List.filterMap_append

theorem turns_settlePointer : w.settlePointer.turns = w.turns := by
  unfold settlePointer Coalesced.take turns
  cases w.layer.pointer.pending with
  | none => rfl
  | some spot => exact List.filterMap_append.trans (List.append_nil _)

/-- A frame hands over the turn that waits. -/
theorem turns_frame : w.frame.turns = w.turns ++ w.layer.wheel.pending.toList := by
  have hretried := (Layer.tasks_retryGesture w.layer).1
  have hsettled := turns_settleWheel (w.quietly (·.retryGesture))
  have hpending : (w.quietly (·.retryGesture)).layer.wheel.pending = w.layer.wheel.pending :=
    congrArg Coalesced.pending hretried
  rw [hpending] at hsettled
  exact (turns_settlePointer _).trans hsettled

/-! ## In the middle of a burst -/

/-- Between two gestures of a burst: the turn that waits is the whole of the run so far, which is
all of one kind. -/
structure Mid (run : List WheelTurn) (w : Watched σ) : Prop where
  live : w.layer.disposed = false
  waits : w.layer.wheel.pending = WheelTurn.whole? run
  alike : run.IsChain fun a b => a.sameTarget b

variable {w : Watched σ} {run : List WheelTurn}

theorem step_of_live (h : w.layer.disposed = false) (g : Gesture Float) :
    w.step (.gesture g) = w.gesture g := by
  unfold step
  rw [h]
  rfl

theorem live_gesture (h : w.layer.disposed = false) (g : Gesture Float) :
    (w.gesture g).layer.disposed = false := by
  rw [layer_gesture]
  exact (congrArg Content.disposed (Layer.content_gesture w.layer g)).trans h

/-- Moves of the pointer have a task of their own. -/
theorem Mid.pointerMove (h : Mid run w) (x y : Float) :
    Mid run (w.gesture (.pointerMove x y)) ∧ (w.gesture (.pointerMove x y)).turns = w.turns := by
  have hheld : (w.layer.pushPointer ⟨x, y⟩).wheel = w.layer.wheel :=
    congrArg Layer.Held.wheel (Layer.held_askFrameIf _ _)
  refine ⟨⟨live_gesture h.live _, ?_, h.alike⟩, rfl⟩
  exact (congrArg Coalesced.pending hheld).trans h.waits

/-- Whatever waits goes with the turn. -/
theorem pushWheel_of_alike {turn : WheelTurn}
    (h : ∀ waiting ∈ w.layer.wheel.pending, waiting.sameTarget turn = true) :
    w.pushWheel turn = w.quietly (·.keepTurn turn) := by
  have hany : (w.layer.wheel.pending.any fun waiting => !waiting.sameTarget turn) = false := by
    cases hpending : w.layer.wheel.pending with
    | none => rfl
    | some waiting => rw [Option.any_some, h waiting hpending, Bool.not_true]
  unfold pushWheel
  rw [hany]
  rfl

/-- What waits does not go with the turn, and is handed over. -/
theorem pushWheel_of_other {turn waiting : WheelTurn}
    (hwaits : w.layer.wheel.pending = some waiting) (h : waiting.sameTarget turn = false) :
    w.pushWheel turn = w.settleWheel.quietly (·.keepTurn turn) := by
  unfold pushWheel
  rw [hwaits, Option.any_some, h]
  rfl

/-- **The run goes on.** A turn that goes with the last one is merged into the one that waits. -/
theorem Mid.continue (h : Mid run w) {turn : WheelTurn}
    (halike : ∀ last ∈ run.getLast?, last.sameTarget turn = true) :
    Mid (run ++ [turn]) (w.pushWheel turn) ∧ (w.pushWheel turn).turns = w.turns := by
  have hsame : ∀ waiting ∈ w.layer.wheel.pending, waiting.sameTarget turn = true := by
    intro waiting hwaiting
    have hwhole : WheelTurn.whole? run = some waiting := h.waits.symm.trans hwaiting
    obtain ⟨last, hlast, -⟩ := Option.map_eq_some_iff.mp hwhole
    rw [WheelTurn.sameTarget_of_whole? hwhole hlast]
    exact halike last hlast
  have hpushed := pushWheel_of_alike hsame
  refine ⟨⟨live_gesture h.live (.wheel turn.y turn.delta turn.modifier turn.region), ?_, ?_⟩, ?_⟩
  · rw [hpushed]
    refine (Layer.pending_keepTurn turn w.layer).trans ?_
    rw [h.waits]
    cases hwhole : WheelTurn.whole? run with
    | none =>
      rw [WheelTurn.whole?_eq_none_iff.mp hwhole]
      rfl
    | some waiting => exact (WheelTurn.whole?_concat hwhole turn).symm
  · refine List.isChain_append.mpr ⟨h.alike, .singleton turn, ?_⟩
    intro last hlast next hnext
    cases hnext
    exact halike last hlast
  · rw [hpushed]
    rfl

/-- **A run ends.** A turn of another kind has what waits handed over, and waits in its place. -/
theorem Mid.change (h : Mid run w) {turn last : WheelTurn} (hlast : run.getLast? = some last)
    (hother : last.sameTarget turn = false) :
    Mid [turn] (w.pushWheel turn) ∧
      (w.pushWheel turn).turns = w.turns ++ (WheelTurn.whole? run).toList := by
  obtain ⟨waiting, hwhole⟩ : ∃ waiting, WheelTurn.whole? run = some waiting :=
    ⟨_, Option.map_eq_some_iff.mpr ⟨last, hlast, rfl⟩⟩
  have hwaits := h.waits.trans hwhole
  have hpushed := pushWheel_of_other hwaits
    ((WheelTurn.sameTarget_of_whole? hwhole hlast turn).trans hother)
  have hsettled : w.settleWheel.layer.wheel.pending = none := by
    rw [layer_settleWheel, Layer.wheel_settleWheel]
  refine ⟨⟨live_gesture h.live (.wheel turn.y turn.delta turn.modifier turn.region), ?_,
    .singleton turn⟩, ?_⟩
  · rw [hpushed]
    refine (Layer.pending_keepTurn turn w.settleWheel.layer).trans ?_
    rw [hsettled]
    rfl
  · rw [hpushed, ← h.waits]
    exact turns_settleWheel w

/-- **Any burst.** It hands over what stands for its runs, the last of them in the frame that
follows; the run so far counts as its beginning. -/
theorem Mid.turns_run (h : Mid run w) {gestures : List (Gesture Float)}
    (hburst : ∀ g ∈ gestures, g.comesInBursts = true) :
    (w.run (gestures.map Command.gesture ++ [.frame])).turns.map some =
      w.turns.map some ++ ((run ++ gestures.filterMap Gesture.turn?).splitBy
        WheelTurn.sameTarget).map WheelTurn.whole? := by
  induction gestures generalizing w run with
  | nil =>
    have hframe : w.step .frame = w.frame := by
      unfold step
      rw [h.live]
      rfl
    change (w.step .frame).turns.map some = _
    rw [hframe, turns_frame, h.waits, List.filterMap_nil, List.append_nil, List.map_append,
      WheelTurn.map_whole?_splitBy h.alike]
  | cons g rest ih =>
    have hrest : ∀ g ∈ rest, g.comesInBursts = true := fun g hg => hburst g (.tail _ hg)
    have hstep : w.run ((g :: rest).map Command.gesture ++ [.frame]) =
        (w.gesture g).run (rest.map Command.gesture ++ [.frame]) := by
      rw [← step_of_live h.live]
      rfl
    rw [hstep]
    cases g with
    | pointerMove x y =>
      obtain ⟨hmid, hturns⟩ := h.pointerMove x y
      rw [ih hmid hrest, hturns]
      rfl
    | wheel y delta modifier region =>
      let turn : WheelTurn := ⟨y, delta, modifier, region⟩
      change ((w.pushWheel turn).run _).turns.map some = _ ++
        ((run ++ turn :: rest.filterMap Gesture.turn?).splitBy _).map _
      have hgoes (halike : ∀ last ∈ run.getLast?, last.sameTarget turn = true) :
          ((w.pushWheel turn).run (rest.map Command.gesture ++ [.frame])).turns.map some =
            w.turns.map some ++ ((run ++ turn :: rest.filterMap Gesture.turn?).splitBy
              WheelTurn.sameTarget).map WheelTurn.whole? := by
        obtain ⟨hmid, hturns⟩ := h.continue halike
        rw [ih hmid hrest, hturns, List.append_assoc]
        rfl
      cases hlast : run.getLast? with
      | none =>
        refine hgoes ?_
        rw [hlast]
        rintro _ ⟨⟩
      | some last =>
        cases halike : last.sameTarget turn with
        | true =>
          refine hgoes ?_
          rw [hlast]
          rintro _ ⟨⟩
          exact halike
        | false =>
          obtain ⟨hmid, hturns⟩ := h.change hlast halike
          have hends : ∀ last ∈ run.getLast?, last.sameTarget turn = false := by
            rw [hlast]
            rintro _ ⟨⟩
            exact halike
          rw [ih hmid hrest, hturns, List.splitBy_append_cons _ hends, List.map_append,
            List.map_append, List.append_assoc, WheelTurn.map_whole?_splitBy h.alike]
          rfl
    | pointerDown | pointerUp | pointerCancel | blur | doubleClick => cases hburst _ (.head _)

end Watched

namespace Layer

/-- **Regrouped, and nothing lost.** Turns of the wheel, with moves of the pointer between them and
then a frame, on a layer on which no turn waits: the price scale is handed one turn for each run of
turns that go together, in order, the last of them with the sum of the run. -/
theorem wheels_regrouped {σ : Type} [Surface σ] {l : Layer σ} (hlive : l.disposed = false)
    (hempty : l.wheel.pending = none) {gestures : List (Gesture Float)}
    (hburst : ∀ g ∈ gestures, g.comesInBursts = true) :
    let commands := gestures.map Command.gesture ++ [.frame]
    let watched := (⟨l, []⟩ : Watched σ).run commands
    watched.layer = l.run commands ∧
      watched.turns.map some = ((gestures.filterMap Gesture.turn?).splitBy
        WheelTurn.sameTarget).map WheelTurn.whole? := by
  intro commands watched
  have hmid : Watched.Mid [] (⟨l, []⟩ : Watched σ) := ⟨hlive, hempty, .nil⟩
  exact ⟨Watched.layer_run commands _, hmid.turns_run hburst⟩

/-- Five turns and a move: two over the plot, one with the modifier, and two over the axis. -/
theorem wheels_regrouped_three_runs :
    let gestures : List (Gesture Float) := [.wheel 10.0 1.0 false .plot, .pointerMove 5.0 5.0,
      .wheel 11.0 2.5 false .plot, .wheel 11.0 (-4.0) true .plot, .wheel 12.0 0.5 false .priceAxis,
      .wheel 13.0 0.25 false .priceAxis]
    (ranged.disposed = false ∧ ranged.wheel.pending = none ∧
      (∀ g ∈ gestures, g.comesInBursts = true)) ∧
    ((⟨ranged, []⟩ : Watched MemorySurface).run
      (gestures.map Command.gesture ++ [.frame])).turns.map some =
      [some ⟨11.0, 3.5, false, .plot⟩, some ⟨11.0, -4.0, true, .plot⟩,
        some ⟨13.0, 0.75, false, .priceAxis⟩] := by
  intro gestures
  have hlive : ranged.disposed = false := by decide +kernel
  have hempty : ranged.wheel.pending = none := by decide +kernel
  have hburst : ∀ g ∈ gestures, g.comesInBursts = true := by decide +kernel
  refine ⟨⟨hlive, hempty, hburst⟩, ((wheels_regrouped hlive hempty hburst).2).trans ?_⟩
  decide +kernel

end Layer

end ChartLayer
