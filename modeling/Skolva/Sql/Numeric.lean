import Mathlib.Algebra.BigOperators.Group.List.Basic
import Mathlib.Algebra.Order.Ring.Rat
import Mathlib.Order.WithBot

/-! # The type `numeric` of PostgreSQL

Sums, differences and products are exact, and `NaN` is a value like the others, which
sorts above all of them.
-/

namespace Skolva.Sql

/-- A value of a column of type `numeric(precision, scale)`, or of an expression over such
columns. These columns hold no infinities. -/
inductive Numeric where
  | finite (value : ℚ)
  | nan
  deriving DecidableEq

namespace Numeric

/-- `NaN` if one operand is. -/
def lift (op : ℚ → ℚ → ℚ) : Numeric → Numeric → Numeric
  | finite x, finite y => finite (op x y)
  | _, _ => nan

instance : Zero Numeric := ⟨finite 0⟩

instance : Add Numeric := ⟨lift (· + ·)⟩

instance : Sub Numeric := ⟨lift (· - ·)⟩

instance : Mul Numeric := ⟨lift (· * ·)⟩

@[simp] theorem finite_add (x y : ℚ) : finite x + finite y = finite (x + y) := rfl

@[simp] theorem nan_add (x : Numeric) : nan + x = nan := by cases x <;> rfl

@[simp] theorem add_nan (x : Numeric) : x + nan = nan := by cases x <;> rfl

theorem zero_eq : (0 : Numeric) = finite 0 := rfl

/-- Sums do not depend on the order of their terms, so `SUM` has one result. -/
instance : AddCommMonoid Numeric where
  nsmul := nsmulRec
  add_assoc x y z := by
    cases x <;> cases y <;> cases z <;> simp [add_assoc]
  zero_add x := by
    cases x <;> simp [zero_eq]
  add_zero x := by
    cases x <;> simp [zero_eq]
  add_comm x y := by
    cases x <;> cases y <;> simp [add_comm]

/-- The order of the type, with `NaN` on top. -/
def rank : Numeric → WithTop ℚ
  | finite x => x
  | nan => ⊤

theorem rank_injective : Function.Injective rank := by
  intro x y hrank
  cases x <;> cases y <;> simp_all [rank]

/-- `GREATEST` is the maximum in this order. -/
instance : LinearOrder Numeric := LinearOrder.lift' rank rank_injective

/-- The value can be stored in a column of type `numeric(precision, scale)`. -/
def HasType (precision scale : Nat) : Numeric → Prop
  | finite x => (x * 10 ^ scale).den = 1 ∧ |x| < 10 ^ (precision - scale)
  | nan => True

end Numeric

end Skolva.Sql
