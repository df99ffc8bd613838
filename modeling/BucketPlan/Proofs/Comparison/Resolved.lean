import BucketPlan.Comparison.Resolve
import BucketPlan.Proofs.Period.Normalized

namespace BucketPlan.Calendar

variable {cal : Calendar} {g : Granularity} {main : Period} {mode : CompareMode}

theorem orRefused_ne_overflow {α : Type} {reason : Refusal} {x : Option α} : orRefused reason x ≠ .error .overflow := by
  cases x <;> simp [orRefused]

/-- Only a value is an answer. -/
theorem orRefused_eq_ok_iff {α : Type} {reason : Refusal} {x : Option α} {a : α} :
    orRefused reason x = .ok a ↔ x = some a := by cases x <;> simp [orRefused]

theorem comparePeriod_eq_none_iff {n : Nat} {answer : Option Period}
    (asked : cal.comparePeriod g main n mode = .ok answer) : answer = none ↔ mode = .off := by
  cases mode with
  | off => cases asked; simp
  | previousPeriod | previousYear | custom start stop =>
    obtain ⟨p, _, rfl⟩ := map_eq_ok_iff.1 asked
    simp

theorem resolveComparison_eq_ok_iff {answer : Option Period} :
    cal.resolveComparison g main mode = .ok answer ↔
      ∃ n, cal.bucketCount g main = .ok n ∧ cal.comparePeriod g main n mode = .ok answer ∧
        ∀ p, answer = some p → cal.bucketCount g p = .ok n := by
  unfold resolveComparison
  simp only [bind_eq_ok_iff, Overflow.monadLift_eq_ok_iff]
  refine exists_congr fun n => and_congr_right fun _ => ?_
  constructor
  · rintro ⟨found, asked, run⟩
    cases found with
    | none =>
      cases run
      exact ⟨asked, by simp⟩
    | some p =>
      simp only [bind_eq_ok_iff, Overflow.monadLift_eq_ok_iff, ite_eq_ok_iff, pure_eq_ok_iff] at run
      obtain ⟨k, count, rfl, rfl⟩ := run
      refine ⟨asked, ?_⟩
      rintro _ ⟨⟩
      exact count
  · rintro ⟨asked, even⟩
    refine ⟨answer, asked, ?_⟩
    cases answer with
    | none => rfl
    | some p =>
      simp only [bind_eq_ok_iff, Overflow.monadLift_eq_ok_iff, ite_eq_ok_iff, pure_eq_ok_iff]
      exact ⟨n, even p rfl, rfl, trivial⟩

section Outcome
variable {n : Nat} (count : cal.bucketCount g main = .ok n)
include count

theorem resolveComparison_of_error {e : Failure} (asked : cal.comparePeriod g main n mode = .error e) :
    cal.resolveComparison g main mode = .error e := by
  have counted : (liftM (cal.bucketCount g main) : Except Failure Nat) = .ok n :=
    Overflow.monadLift_eq_ok_iff.2 count
  simp only [resolveComparison, counted, asked, bind, Except.bind]

/-- The number of buckets decides over the period that the mode asks for. -/
theorem resolveComparison_of_period {p : Period} {k : Nat} (asked : cal.comparePeriod g main n mode = .ok (some p))
    (compared : cal.bucketCount g p = .ok k) :
    cal.resolveComparison g main mode = if k = n then .ok (some p) else .error (.refused (unevenRefusal mode n k)) := by
  have counted : (liftM (cal.bucketCount g main) : Except Failure Nat) = .ok n :=
    Overflow.monadLift_eq_ok_iff.2 count
  have countedP : (liftM (cal.bucketCount g p) : Except Failure Nat) = .ok k :=
    Overflow.monadLift_eq_ok_iff.2 compared
  simp only [resolveComparison, counted, asked, countedP, bind, Except.bind, pure, Except.pure]
  rfl

/-- What a comparison is resolved to is what the mode asks for, with as many buckets. -/
theorem comparePeriod_of_resolve {p : Period} (answer : cal.resolveComparison g main mode = .ok (some p)) :
    cal.comparePeriod g main n mode = .ok (some p) ∧ cal.bucketCount g p = .ok n := by
  obtain ⟨k, counted, asked, even⟩ := resolveComparison_eq_ok_iff.1 answer
  rw [count] at counted
  cases counted
  exact ⟨asked, even p rfl⟩

/-- A comparison overflows when what the mode asks for does, as long as the buckets of what is
    found can be counted. -/
theorem resolveComparison_overflow_iff
    (counts : ∀ p, cal.comparePeriod g main n mode = .ok (some p) → ∃ k, cal.bucketCount g p = .ok k) :
    cal.resolveComparison g main mode = .error .overflow ↔ cal.comparePeriod g main n mode = .error .overflow := by
  refine ⟨?_, resolveComparison_of_error count⟩
  intro error
  cases asked : cal.comparePeriod g main n mode with
  | error e =>
    rw [resolveComparison_of_error count asked] at error
    exact error
  | ok answer =>
    cases answer with
    | none =>
      rw [resolveComparison_eq_ok_iff.2 ⟨n, count, asked, by simp⟩] at error
      cases error
    | some p =>
      obtain ⟨k, compared⟩ := counts p asked
      rw [resolveComparison_of_period count asked compared] at error
      split at error
      · cases error
      · simp at error

end Outcome

end BucketPlan.Calendar
