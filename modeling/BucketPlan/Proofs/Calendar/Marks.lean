import BucketPlan.Proofs.Calendar.Pace

namespace BucketPlan

namespace Granularity

/-- The second of the wall clock at which the bucket with number `i` opens. -/
def mark (g : Granularity) (weekStart : Weekday) (i : Int) : Int :=
  match g.unitSeconds? with
  | some unit => unit * i
  | none => 86400 * g.leadDay weekStart i

/-- The number of the bucket that a second of the wall clock lies in. -/
def markIndex (g : Granularity) (weekStart : Weekday) (n : Int) : Int :=
  match g.unitSeconds? with
  | some unit => n / unit
  | none => g.leadIndex weekStart (n / 86400)

variable {g : Granularity} {weekStart : Weekday}

theorem mark_le_iff {i n : Int} : g.mark weekStart i ≤ n ↔ i ≤ g.markIndex weekStart n := by
  cases units : g.unitSeconds? with
  | none =>
    simp only [mark, markIndex, units]
    rw [← leadDay_le_iff]
    omega
  | some unit =>
    simp only [mark, markIndex, units]
    rcases clockUnit units with rfl | rfl <;> omega

/-- A bucket is no longer than usual. -/
theorem mark_succ_bounds (g : Granularity) (weekStart : Weekday) (i : Int) :
    g.mark weekStart i < g.mark weekStart (i + 1) ∧
      g.mark weekStart (i + 1) ≤ g.mark weekStart i + g.usualSeconds := by
  cases units : g.unitSeconds? with
  | none =>
    have days := leadDay_succ_bounds g weekStart i
    simp only [mark, usualSeconds, units]
    omega
  | some unit =>
    simp only [mark, usualSeconds, units]
    rcases clockUnit units with rfl | rfl <;> omega

theorem markIndex_eq {i n : Int} (low : g.mark weekStart i ≤ n) (high : n < g.mark weekStart (i + 1)) :
    g.markIndex weekStart n = i := by
  rw [mark_le_iff] at low
  rw [← Int.not_le, mark_le_iff] at high
  omega

theorem markIndex_mark (g : Granularity) (weekStart : Weekday) (i : Int) :
    g.markIndex weekStart (g.mark weekStart i) = i :=
  markIndex_eq (Int.le_refl _) (mark_succ_bounds g weekStart i).1

theorem mark_lt_iff {i j : Int} : g.mark weekStart i < g.mark weekStart j ↔ i < j := by
  rw [← Int.not_le, mark_le_iff, markIndex_mark, Int.not_le]

theorem mark_le_mark_iff {i j : Int} : g.mark weekStart i ≤ g.mark weekStart j ↔ i ≤ j := by
  rw [mark_le_iff, markIndex_mark]

theorem mark_add_le (g : Granularity) (weekStart : Weekday) (i : Int) (n : Nat) :
    g.mark weekStart (i + n) ≤ g.mark weekStart i + g.usualSeconds * n := by
  induction n with
  | zero => simp
  | succ n ih =>
    have one := (mark_succ_bounds g weekStart (i + n)).2
    rw [Int.natCast_succ, Int.mul_add, Int.mul_one, ← Int.add_assoc]
    omega

end Granularity

end BucketPlan
