import ChartLayer.Number.Quantity
import Mathlib.Algebra.Order.Archimedean.Real.Basic
import Mathlib.Algebra.Order.Floor.Ring
import Mathlib.Analysis.Complex.Exponential

/-!
# Exact arithmetic

What is written over any type of quantity can be asked what it computes when nothing is rounded.
Then each finite quantity is a real number, and what is worked out from finite ones is finite and is
what it is among the reals. Quantities that are not finite may be there as well: nothing is said of
them but that the total order orders them too.

* `ExactQuantity`: the laws. The reals themselves are an instance.
* `clamp_exact`: a quantity held between two ends.
-/

namespace ChartLayer

/-- The nearest whole number, a half going away from zero. -/
noncomputable def nearest (x : ℝ) : ℝ := if x < 0 then -⌊-x + 1 / 2⌋ else ⌊x + 1 / 2⌋

/-- A quantity is finite, and it is this real number. -/
def Quantity.Is {α : Type} [Quantity α] (value : α → ℝ) (a : α) (x : ℝ) : Prop :=
  isFinite a = true ∧ value a = x

/-- Quantities with exact arithmetic. -/
class ExactQuantity (α : Type) extends Quantity α where
  /-- The real number that a finite quantity is. -/
  value : α → ℝ
  add_exact {a b : α} : isFinite a = true → isFinite b = true →
    Quantity.Is value (add a b) (value a + value b)
  sub_exact {a b : α} : isFinite a = true → isFinite b = true →
    Quantity.Is value (sub a b) (value a - value b)
  mul_exact {a b : α} : isFinite a = true → isFinite b = true →
    Quantity.Is value (mul a b) (value a * value b)
  div_exact {a b : α} : isFinite a = true → isFinite b = true → value b ≠ 0 →
    Quantity.Is value (div a b) (value a / value b)
  neg_exact {a : α} : isFinite a = true → Quantity.Is value (neg a) (-value a)
  abs_exact {a : α} : isFinite a = true → Quantity.Is value (abs a) |value a|
  exp_exact {a : α} : isFinite a = true → Quantity.Is value (exp a) (Real.exp (value a))
  round_exact {a : α} : isFinite a = true → Quantity.Is value (round a) (nearest (value a))
  decimal_exact (m : Nat) (negative : Bool) (e : Nat) :
    Quantity.Is value (ofScientific m negative e) (OfScientific.ofScientific m negative e)
  lt_exact {a b : α} : isFinite a = true → isFinite b = true → (lt a b ↔ value a < value b)
  le_exact {a b : α} : isFinite a = true → isFinite b = true → (le a b ↔ value a ≤ value b)
  beq_exact {a b : α} : isFinite a = true → isFinite b = true →
    (beq a b = true ↔ value a = value b)
  order_total : Std.TransCmp order

noncomputable instance : ExactQuantity ℝ where
  add := (· + ·)
  sub := (· - ·)
  mul := (· * ·)
  div := (· / ·)
  neg := (- ·)
  lt := (· < ·)
  le := (· ≤ ·)
  beq a b := decide (a = b)
  ofScientific := OfScientific.ofScientific
  decLt := inferInstance
  decLe := inferInstance
  isFinite _ := true
  abs := (|·|)
  exp := Real.exp
  round := nearest
  order := compare
  value := id
  add_exact _ _ := ⟨rfl, rfl⟩
  sub_exact _ _ := ⟨rfl, rfl⟩
  mul_exact _ _ := ⟨rfl, rfl⟩
  div_exact _ _ _ := ⟨rfl, rfl⟩
  neg_exact _ := ⟨rfl, rfl⟩
  abs_exact _ := ⟨rfl, rfl⟩
  exp_exact _ := ⟨rfl, rfl⟩
  round_exact _ := ⟨rfl, rfl⟩
  decimal_exact _ _ _ := ⟨rfl, rfl⟩
  lt_exact _ _ := Iff.rfl
  le_exact _ _ := Iff.rfl
  beq_exact _ _ := decide_eq_true_iff
  order_total := inferInstance

namespace ExactQuantity

open Quantity (isFinite)

variable {α : Type} [ExactQuantity α] {a low high : α}

instance : Std.TransCmp (Quantity.order (α := α)) := order_total

theorem zero_exact : Quantity.Is value (0.0 : α) 0 := by
  have h := decimal_exact (α := α) 0 true 1
  rwa [show (OfScientific.ofScientific 0 true 1 : ℝ) = 0 by norm_num] at h

/-- Between two ends in order, a quantity is held as a real number is. -/
theorem clamp_exact (ha : isFinite a = true) (hlow : isFinite low = true)
    (hhigh : isFinite high = true) (hle : value low ≤ value high) :
    Quantity.Is value (Quantity.clamp a low high)
      (max (value low) (min (value a) (value high))) := by
  have hbelow : a < low ↔ value a < value low := lt_exact ha hlow
  have habove : high < a ↔ value high < value a := lt_exact hhigh ha
  have hends : ¬high < low := fun h => hle.not_gt ((lt_exact hhigh hlow).mp h)
  unfold Quantity.clamp
  by_cases hlt : a < low
  · rw [if_pos hlt, if_neg hends, min_eq_left ((hbelow.mp hlt).le.trans hle),
      max_eq_left (hbelow.mp hlt).le]
    exact ⟨hlow, rfl⟩
  · rw [if_neg hlt]
    have hfloor : value low ≤ value a := not_lt.mp (mt hbelow.mpr hlt)
    by_cases hgt : high < a
    · rw [if_pos hgt, min_eq_right (habove.mp hgt).le, max_eq_right hle]
      exact ⟨hhigh, rfl⟩
    · rw [if_neg hgt, min_eq_left (not_lt.mp (mt habove.mpr hgt)), max_eq_right hfloor]
      exact ⟨ha, rfl⟩

end ExactQuantity

end ChartLayer
