import BucketPlan.Moment.Basic

/-!
Arithmetic on dates that would leave the representable years has no answer. Where
this ends a whole computation, it ends with an overflow.
-/

namespace BucketPlan

/-- A date left the representable years. -/
inductive Overflow where
  | outOfRange
deriving DecidableEq, Repr

/-- Ends the computation when there is no value. -/
def orOverflow {α : Type} : Option α → Except Overflow α
  | some a => .ok a
  | none => .error .outOfRange

/-- The moment `d` seconds later, or an overflow. -/
def Moment.plus (m : Moment) (d : Int) : Except Overflow Moment := orOverflow (m.addSeconds? d)

theorem orOverflow_eq_ok_iff {α : Type} {x : Option α} {a : α} : orOverflow x = .ok a ↔ x = some a := by
  cases x <;> simp [orOverflow]

theorem Moment.plus_eq_ok_iff {m n : Moment} {d : Int} : m.plus d = .ok n ↔ m.addSeconds? d = some n :=
  orOverflow_eq_ok_iff

end BucketPlan
