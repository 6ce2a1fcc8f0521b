/-!
# Work for the next frame

Work that arrives in bursts is done once per frame. A `Coalesced` task holds at most one payload;
what arrives later replaces it or is merged into it. The first payload after a frame asks for the
next frame, and the others ride along. Canceling drops the payload and keeps the frame.
-/

namespace ChartLayer

/-- A payload that waits for the next frame, and whether that frame has been asked for.
mirrors `CoalescedTask` -/
structure Coalesced (α : Type) where
  pending : Option α := none
  scheduled : Bool := false
  deriving DecidableEq, Repr

namespace Coalesced

variable {α : Type}

/-- Puts a payload in the place of the one that waits. `true` asks for a frame.
mirrors `CoalescedTask::push` -/
def push (payload : α) (t : Coalesced α) : Bool × Coalesced α :=
  (!t.scheduled, ⟨some payload, true⟩)

/-- Merges a payload into the one that waits. `true` asks for a frame.
mirrors `CoalescedTask::push_merge` -/
def accumulate (merge : α → α → α) (payload : α) (t : Coalesced α) : Bool × Coalesced α :=
  let merged :=
    match t.pending with
    | some earlier => merge earlier payload
    | none => payload
  (!t.scheduled, ⟨some merged, true⟩)

/-- Hands the payload over to the frame.
mirrors `CoalescedTask::take` -/
def take (t : Coalesced α) : Option α × Coalesced α := (t.pending, {})

/-- Drops the payload; the frame comes all the same.
mirrors `CoalescedTask::cancel` -/
def cancel (t : Coalesced α) : Coalesced α := { t with pending := none }

end Coalesced

end ChartLayer
