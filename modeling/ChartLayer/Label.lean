import ChartLayer.Fault
import ChartLayer.Price.Map
import ChartLayer.Time.Timeframe

/-!
# Labels

Labels hang at prices and must not cover each other. They are placed one after the other, the most
important first; each goes to the pixel of its price, or below the labels that are in its way, and
is hidden if that is below the pane.

* `Labels.layout`: the places of all labels.
-/

namespace ChartLayer

open Quantity (isNumber)

/-- A label that wants a place.
mirrors `LabelItem` -/
structure LabelRequest (α : Type) where
  id : String
  anchor : α
  priority : Int
  /-- The timeframes behind the label; coarser ones are placed first. -/
  mask : Nat
  deriving DecidableEq, Repr

/-- A label at its place.
mirrors `PlacedLabel` -/
structure PlacedLabel (α : Type) where
  id : String
  y : α
  deriving DecidableEq, Repr

/-- The places of all labels.
mirrors `LabelLayout` -/
structure LabelLayout (α : Type) where
  /-- From the top down. -/
  placed : List (PlacedLabel α) := []
  hidden : List String := []
  deriving DecidableEq, Repr

/-- The place of a label, if it has one.
mirrors `LabelLayout::position_of` -/
def LabelLayout.place? {α : Type} (layout : LabelLayout α) (id : String) : Option α :=
  (layout.placed.find? fun p => p.id == id).map (·.y)

/-- The settings of the labels.
mirrors `LabelConfig` -/
structure LabelRules (α : Type) where
  /-- No two labels are nearer. -/
  minGap : α
  /-- How far off the pane the price of a shown label may be. -/
  margin : α
  deriving DecidableEq, Repr

namespace Labels

variable {α : Type} [Quantity α]

/-- The order in which labels are placed: by priority, by the rank of the timeframes, from high to
low prices, by id.
mirrors `placement_order` -/
def importanceOrder (a b : LabelRequest α) : Ordering :=
  (compare b.priority a.priority).then <|
  (compare (rankOfMask b.mask) (rankOfMask a.mask)).then <|
  (Quantity.order b.anchor a.anchor).then <|
  compare a.id b.id

/-- From the top down. A place that is no number comes first: the one NaN stands here for the one
that the arithmetic of the pane makes, whose sign bit is set. Numbers are in their total order. -/
def pixelOrder (a b : α) : Ordering :=
  match isNumber a, isNumber b with
  | true, true => Quantity.order a b
  | true, false => .gt
  | false, true => .lt
  | false, false => .eq

/-! ## One label -/

/-- The pixel of the price, held in the pane, if the label is worth showing. -/
def desired? (rules : LabelRules α) (height y : α) : Option α :=
  if y < -rules.margin ∨ height + rules.margin < y then none
  else some (Quantity.clamp y 0.0 height)

/-- Below each label in the way, taken from the top down. -/
def pushDown (gap : α) (taken : List α) (y : α) : α :=
  taken.foldl (fun y p => if Quantity.abs (y - p) < gap then p + gap else y) y

/-- Where `y` belongs among the places taken, found by halving a stretch that starts at `base` and
has `size` places. -/
def bisect (taken : Array α) (y : α) : Nat → Nat → Nat → Nat
  | 0, _, base => base
  | fuel + 1, size, base =>
    if size ≤ 1 then if taken[base]?.any (· < y) then base + 1 else base
    else
      let half := size / 2
      let middle := base + half
      bisect taken y fuel (size - half) (if taken[middle]?.any (· < y) then middle else base)

/-- Adds a place to those taken. -/
def insertPlace (taken : List α) (y : α) : List α :=
  let at_ := bisect taken.toArray y (taken.length + 1) taken.length 0
  taken.take at_ ++ y :: taken.drop at_

/-! ## All labels -/

/-- What has been placed so far. -/
structure Progress (α : Type) where
  taken : List α := []
  placed : List (PlacedLabel α) := []
  hidden : List String := []
  deriving Repr

/-- Places one label, or hides it. -/
def place (rules : LabelRules α) (height : α) (progress : Progress α) (item : LabelRequest α × α) :
    Progress α :=
  let y := pushDown rules.minGap progress.taken item.2
  if height < y then { progress with hidden := progress.hidden ++ [item.1.id] }
  else
    { progress with
      taken := insertPlace progress.taken y
      placed := progress.placed ++ [⟨item.1.id, y⟩] }

/-- The labels worth showing with their pixels, and the ids of the others. -/
def visible (rules : LabelRules α) (height : α) (map : PriceMap α) :
    List (LabelRequest α) → Except MissingGeometry (List (LabelRequest α × α) × List String)
  | [] => .ok ([], [])
  | item :: rest =>
    if !Quantity.isFinite item.anchor then
      (visible rules height map rest).map fun (shown, hidden) => (shown, item.id :: hidden)
    else
      match map.pixelOf item.anchor with
      | none => .error .labelPixel
      | some pixel =>
        (visible rules height map rest).map fun (shown, hidden) =>
          match desired? rules height (Quantity.round pixel) with
          | some y => ((item, y) :: shown, hidden)
          | none => (shown, item.id :: hidden)

/-- The height of a pane that has been measured. -/
def measuredHeight (map : PriceMap α) : Except MissingGeometry α :=
  match map.paneHeight with
  | some h => if 0.0 < h ∧ Quantity.isFinite h = true then .ok h else .error .paneHeight
  | none => .error .paneHeight

/-- The places of all labels, or the geometry that is missing.
mirrors `LabelPacker::layout` -/
def layout (rules : LabelRules α) (items : List (LabelRequest α)) (map : PriceMap α) :
    Except MissingGeometry (LabelLayout α) := do
  let height ← measuredHeight map
  let (shown, hidden) ← visible rules height map items
  let inOrder := shown.mergeSort fun a b => (importanceOrder a.1 b.1).isLE
  let progress := inOrder.foldl (place rules height) { hidden }
  return {
    placed := progress.placed.mergeSort fun a b =>
      ((pixelOrder a.y b.y).then (compare a.id b.id)).isLE
    hidden := progress.hidden.mergeSort fun a b => (compare a b).isLE }

end Labels

end ChartLayer
