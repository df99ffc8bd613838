import BucketPlan.Period.Normalize
import BucketPlan.Proofs.Calendar.Boundaries
import BucketPlan.Proofs.Runs

namespace BucketPlan

/-- No granularity allows a period without buckets. -/
theorem Granularity.pos_of_contains {g : Granularity} {n : Nat} (within : g.bounds.Contains n) : 0 < n := by
  have least : 1 ≤ g.bounds.minBuckets := by cases g <;> decide
  exact Nat.lt_of_lt_of_le least within.1

namespace Calendar

variable {cal : Calendar} {g : Granularity} {p : Period}

theorem boundedPeriod_eq_ok_iff {start stop : Instant} :
    cal.boundedPeriod g start stop = .ok p ↔
      leastBuckets g start stop ≤ g.bounds.maxBuckets ∧ p = ⟨start, stop, cal.zone.id⟩ ∧
        ∃ n, cal.bucketCount g p = .ok n ∧ g.bounds.Contains n := by
  simp only [boundedPeriod, ite_throw_eq_ok_iff, bind_eq_ok_iff, Overflow.monadLift_eq_ok_iff, ite_eq_ok_iff,
    pure_eq_ok_iff, Nat.not_lt]
  constructor
  · rintro ⟨few, n, count, within, rfl⟩
    exact ⟨few, rfl, n, count, within⟩
  · rintro ⟨few, rfl, n, count, within⟩
    exact ⟨few, n, count, within, rfl⟩

theorem boundedPeriod_of_count {start stop : Instant} {n : Nat}
    (passes : leastBuckets g start stop ≤ g.bounds.maxBuckets)
    (count : cal.bucketCount g ⟨start, stop, cal.zone.id⟩ = .ok n) :
    cal.boundedPeriod g start stop = if g.bounds.Contains n then .ok ⟨start, stop, cal.zone.id⟩
      else .error (.refused (.bucketsOutOfBounds g n)) := by
  have counted : (liftM (cal.bucketCount g ⟨start, stop, cal.zone.id⟩) : Except Failure Nat) = .ok n :=
    Overflow.monadLift_eq_ok_iff.2 count
  simp only [boundedPeriod, Nat.not_lt.2 passes, if_false, counted, bind, Except.bind, pure, Except.pure]
  rfl

/-- A selection widened to whole buckets, where `bounded` says between which instants there
    is a period. -/
def normalizeBy (cal : Calendar) (bounded : Instant → Instant → Except Failure Period) (g : Granularity)
    (rawStart rawStop : Instant) : Except Failure Period :=
  if rawStop < rawStart then .error (.refused (.reversedPeriod rawStart rawStop))
  else do
    let start ← cal.floor g rawStart
    let stop ← cal.ceil g rawStop
    if stop < start then throw (.refused (.reversedPeriod start stop))
    else bounded start stop

theorem normalizeBy_boundedPeriod (cal : Calendar) (g : Granularity) :
    cal.normalizeBy (cal.boundedPeriod g) g = cal.normalize g := rfl

theorem normalizeBy_eq_ok_iff {bounded : Instant → Instant → Except Failure Period} {rawStart rawStop : Instant} :
    cal.normalizeBy bounded g rawStart rawStop = .ok p ↔
      rawStart ≤ rawStop ∧ ∃ start stop, cal.floor g rawStart = .ok start ∧ cal.ceil g rawStop = .ok stop ∧
        start ≤ stop ∧ bounded start stop = .ok p := by
  unfold normalizeBy
  by_cases reversed : rawStop < rawStart
  · simp only [reversed, if_true, reduceCtorEq, false_iff]
    rintro ⟨order, _⟩
    exact absurd reversed (not_lt.2 order)
  · simp only [reversed, if_false, ite_throw_eq_ok_iff, bind_eq_ok_iff, Overflow.monadLift_eq_ok_iff, not_lt]
    constructor
    · rintro ⟨start, floor, stop, ceil, le, run⟩
      exact ⟨not_lt.1 reversed, start, stop, floor, ceil, le, run⟩
    · rintro ⟨_, start, stop, floor, ceil, le, run⟩
      exact ⟨start, floor, stop, ceil, le, run⟩

theorem normalizeBy_of_ends {bounded : Instant → Instant → Except Failure Period}
    {rawStart rawStop start stop : Instant} (order : rawStart ≤ rawStop) (floor : cal.floor g rawStart = .ok start)
    (ceil : cal.ceil g rawStop = .ok stop) :
    cal.normalizeBy bounded g rawStart rawStop = .ok p ↔ start ≤ stop ∧ bounded start stop = .ok p := by
  simp only [normalizeBy_eq_ok_iff, floor, ceil, Except.ok.injEq, exists_and_left, exists_eq_left', order, true_and]

theorem normalize_eq_ok_iff {rawStart rawStop : Instant} :
    cal.normalize g rawStart rawStop = .ok p ↔
      rawStart ≤ rawStop ∧ ∃ start stop, cal.floor g rawStart = .ok start ∧ cal.ceil g rawStop = .ok stop ∧
        start ≤ stop ∧ cal.boundedPeriod g start stop = .ok p := by
  rw [← normalizeBy_boundedPeriod]
  exact normalizeBy_eq_ok_iff

theorem normalize_of_ends {rawStart rawStop start stop : Instant} (order : rawStart ≤ rawStop)
    (floor : cal.floor g rawStart = .ok start) (ceil : cal.ceil g rawStop = .ok stop) (le : start ≤ stop) :
    cal.normalize g rawStart rawStop = cal.boundedPeriod g start stop := by
  have floored : (liftM (cal.floor g rawStart) : Except Failure Instant) = .ok start :=
    Overflow.monadLift_eq_ok_iff.2 floor
  have ceiled : (liftM (cal.ceil g rawStop) : Except Failure Instant) = .ok stop :=
    Overflow.monadLift_eq_ok_iff.2 ceil
  simp only [normalize, not_lt.2 order, not_lt.2 le, if_false, floored, ceiled, bind, Except.bind]

/-- An accepted period has a number of buckets within the bounds. -/
theorem normalize_count {rawStart rawStop : Instant} (accepted : cal.normalize g rawStart rawStop = .ok p) :
    ∃ n, cal.bucketCount g p = .ok n ∧ g.bounds.Contains n := by
  obtain ⟨_, _, _, _, _, _, bounded⟩ := normalize_eq_ok_iff.1 accepted
  exact (boundedPeriod_eq_ok_iff.1 bounded).2.2

/-! ## Away from the ends -/

theorem stop_near_of_least {start stop : Instant} (wholeStart : start.nanos = 0) (wholeStop : stop.nanos = 0)
    (passes : leastBuckets g start stop ≤ g.bounds.maxBuckets) : stop.seconds ≤ start.seconds + 86400 * 3800 := by
  have most : g.longestSeconds * (g.bounds.maxBuckets + 1) ≤ 86400 * 3800 := by cases g <;> decide
  have positive : 0 < g.longestSeconds := by cases g <;> decide
  rw [leastBuckets, Moment.secondsSince_of_whole wholeStop wholeStart, ← Nat.lt_add_one_iff,
    Nat.div_lt_iff_lt_mul positive, Nat.mul_comm] at passes
  omega

/-- A period that starts away from the ends also stops away from them, and the selection
    that it comes from was not far from it. -/
theorem normalize_inside {rawStart rawStop : Instant} (normalized : cal.normalize g rawStart rawStop = .ok p)
    (inside : p.start.InsideBy Moment.quarterCentury) :
    p.start.InsideBy 5000 ∧ p.stop.InsideBy 5000 ∧ rawStart.InsideBy 80 ∧ rawStop.InsideBy 120 := by
  obtain ⟨order, start, stop, floor, ceil, le, bounded⟩ := normalize_eq_ok_iff.1 normalized
  obtain ⟨passes, rfl, _⟩ := boundedPeriod_eq_ok_iff.1 bounded
  have wholeStart := floor_nanos floor
  have near := stop_near_of_least wholeStart (ceil_nanos ceil) passes
  have reached := (Moment.le_iff_seconds wholeStart).1 le
  have fromStart := floor_near floor
  have fromStop := lt_of_ceil ceil
  have far : start.InsideBy 9131 := inside
  rw [Moment.le_def, Moment.lt_def] at order
  simp only [Moment.insideBy_def] at far ⊢
  omega

end Calendar

end BucketPlan
