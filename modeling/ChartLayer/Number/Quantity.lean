import ChartLayer.Number.Binary64

/-!
# Quantities

Prices and pixels are quantities: numbers with arithmetic, IEEE comparisons and a few roundings. The
price scale and the label packing are written over any type of quantity. The chart runs on `Float`;
an exact type of numbers is another instance, on which the same definitions show what they compute
when nothing is rounded.

A quantity that differs from itself is no number. `larger` and `smaller` pass such an argument over,
and take the first of two equal ones.
-/

namespace ChartLayer

/-- The operations that prices and pixels need. -/
class Quantity (α : Type) where
  add : α → α → α
  sub : α → α → α
  mul : α → α → α
  div : α → α → α
  neg : α → α
  lt : α → α → Prop
  le : α → α → Prop
  beq : α → α → Bool
  ofScientific : Nat → Bool → Nat → α
  decLt : DecidableRel lt
  decLe : DecidableRel le
  isFinite : α → Bool
  abs : α → α
  exp : α → α
  /-- The nearest whole number, halves away from zero. -/
  round : α → α
  /-- A total order of all values. -/
  order : α → α → Ordering

namespace Quantity

/-! ## The usual signs -/

instance (priority := low) {α : Type} [Quantity α] : Add α := ⟨add⟩

instance (priority := low) {α : Type} [Quantity α] : Sub α := ⟨sub⟩

instance (priority := low) {α : Type} [Quantity α] : Mul α := ⟨mul⟩

instance (priority := low) {α : Type} [Quantity α] : Div α := ⟨div⟩

instance (priority := low) {α : Type} [Quantity α] : Neg α := ⟨neg⟩

instance (priority := low) {α : Type} [Quantity α] : LT α := ⟨lt⟩

instance (priority := low) {α : Type} [Quantity α] : LE α := ⟨le⟩

instance (priority := low) {α : Type} [Quantity α] : BEq α := ⟨beq⟩

instance (priority := low) {α : Type} [Quantity α] : OfScientific α := ⟨ofScientific⟩

instance (priority := low) {α : Type} [Quantity α] (a b : α) : Decidable (a < b) := decLt a b

instance (priority := low) {α : Type} [Quantity α] (a b : α) : Decidable (a ≤ b) := decLe a b

end Quantity

instance : Quantity Float where
  add := Float.add
  sub := Float.sub
  mul := Float.mul
  div := Float.div
  neg := Float.neg
  lt x y := x < y
  le x y := x ≤ y
  beq := Float.beq
  ofScientific := Float.ofScientific
  decLt := Float.decLt
  decLe := Float.decLe
  isFinite := Float.isFinite
  abs := Float.abs
  exp := Float.exp
  round := roundAway
  order := totalOrder

namespace Quantity

variable {α : Type} [Quantity α]

/-- Whether a quantity is a number at all. -/
def isNumber (a : α) : Bool := a == a

/-- The larger of two quantities. -/
def larger (a b : α) : α :=
  if isNumber a then
    if isNumber b && decide (a < b) then b else a
  else b

/-- The smaller of two quantities. -/
def smaller (a b : α) : α :=
  if isNumber a then
    if isNumber b && decide (b < a) then b else a
  else b

/-- The quantity held between two ends. -/
def clamp (a low high : α) : α :=
  let raised := if a < low then low else a
  if high < raised then high else raised

end Quantity

end ChartLayer
