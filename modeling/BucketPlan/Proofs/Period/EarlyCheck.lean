import BucketPlan.Proofs.Calendar.Pace
import BucketPlan.Proofs.Period.Normalized
import BucketPlan.Proofs.Zone.Regular

/-!
A selection that is far too long is refused before its buckets are counted. A bucket can
be longer than the check takes the longest to be, but only at a switch; what all switches
add is two days at most, and there is room for that between the usual length of a bucket
and the longest one, for as many buckets as a period may have (`usualSeconds_spare`). So
the check refuses nothing that counting would accept (`normalize_iff_counted`).
-/

namespace BucketPlan

/-- As many usual buckets as a period may have, with two days more, are shorter than one
    more of the longest buckets. -/
theorem Granularity.usualSeconds_spare (g : Granularity) :
    g.usualSeconds * g.bounds.maxBuckets + 172800 < g.longestSeconds * (g.bounds.maxBuckets + 1) := by
  cases g <;> decide

namespace Calendar

/-- The period from `start` to `stop`, when its number of buckets is within the bounds of
    the granularity, its length not looked at. -/
def countedPeriod (cal : Calendar) (g : Granularity) (start stop : Instant) : Except Failure Period := do
  let period : Period := ⟨start, stop, cal.zone.id⟩
  let buckets ← cal.bucketCount g period
  if g.bounds.Contains buckets then return period
  else throw (.refused (.bucketsOutOfBounds g buckets))

/-- A selection normalized without the early check. -/
def normalizeByCount (cal : Calendar) (g : Granularity) (rawStart rawStop : Instant) : Except Failure Period :=
  cal.normalizeBy (cal.countedPeriod g) g rawStart rawStop

variable {cal : Calendar} {g : Granularity} {start stop : Instant} {p : Period}

theorem countedPeriod_of_count {n : Nat} (count : cal.bucketCount g ⟨start, stop, cal.zone.id⟩ = .ok n) :
    cal.countedPeriod g start stop = .ok p ↔ p = ⟨start, stop, cal.zone.id⟩ ∧ g.bounds.Contains n := by
  simp only [countedPeriod, count, bind_eq_ok_iff, Overflow.monadLift_eq_ok_iff, ite_eq_ok_iff, pure_eq_ok_iff,
    Except.ok.injEq, exists_eq_left']
  rw [and_comm, eq_comm]

theorem boundedPeriod_iff_counted {n : Nat} (count : cal.bucketCount g ⟨start, stop, cal.zone.id⟩ = .ok n)
    (passes : n ≤ g.bounds.maxBuckets → leastBuckets g start stop ≤ g.bounds.maxBuckets) :
    cal.boundedPeriod g start stop = .ok p ↔ cal.countedPeriod g start stop = .ok p := by
  rw [boundedPeriod_eq_ok_iff, countedPeriod_of_count count]
  constructor
  · rintro ⟨_, rfl, k, found, within⟩
    rw [count] at found
    cases found
    exact ⟨rfl, within⟩
  · rintro ⟨rfl, within⟩
    exact ⟨passes within.2, rfl, n, count, within⟩

/-- A period that is no longer than as many usual buckets as a period may have, but for two
    days, passes the early check. -/
theorem leastBuckets_le (wholeStart : start.nanos = 0) (wholeStop : stop.nanos = 0)
    (short : stop.seconds - start.seconds ≤ g.usualSeconds * g.bounds.maxBuckets + 172800) :
    leastBuckets g start stop ≤ g.bounds.maxBuckets := by
  have spare := g.usualSeconds_spare
  have positive : 0 ≤ g.usualSeconds * g.bounds.maxBuckets :=
    Int.mul_nonneg (Int.le_of_lt g.usualSeconds_bounds.1) (Int.natCast_nonneg _)
  rw [leastBuckets, Moment.secondsSince_of_whole wholeStop wholeStart, ← Nat.lt_succ_iff]
  apply Nat.div_lt_of_lt_mul
  rw [← Int.ofNat_lt, Int.natCast_mul, Int.natCast_succ]
  omega

end Calendar

namespace FixedRule

section Selection
variable {r : FixedRule} {g : Granularity} (lasting : g.unitSeconds? = none → r.Lasting) (weekStart : Weekday)
include lasting

/-- Between the floor and the ceiling of a selection the buckets can be counted, and where
    they are few enough the early check passes. -/
theorem exists_count_of_selection {rawStart rawStop start stop : Instant} (insideStart : rawStart.InsideBy 80)
    (insideStop : rawStop.InsideBy 80) (floor : (r.calendar weekStart).floor g rawStart = .ok start)
    (ceil : (r.calendar weekStart).ceil g rawStop = .ok stop) (le : start ≤ stop) :
    ∃ n, (r.calendar weekStart).bucketCount g ⟨start, stop, r.id⟩ = .ok n ∧
      (n ≤ g.bounds.maxBuckets → leastBuckets g start stop ≤ g.bounds.maxBuckets) := by
  obtain ⟨_, isFloor, opens⟩ := exists_floor_opens (r := r) (g := g) weekStart (insideStart.mono 40 (by decide))
  obtain ⟨_, isCeil, whole, near⟩ := exists_ceil_near weekStart lasting insideStop
  rw [floor] at isFloor
  rw [ceil] at isCeil
  cases isFloor
  cases isCeil
  have insideF : start.InsideBy 40 := Calendar.floor_inside floor insideStart 40 (by decide)
  have insideC : stop.InsideBy 40 := by
    rw [Moment.le_iff_seconds opens.whole] at le
    rw [Moment.insideBy_def] at *
    omega
  obtain ⟨starts, run, paced⟩ :=
    exists_bucketStarts_pace weekStart lasting (p := ⟨start, stop, r.id⟩) insideF insideC opens
  refine ⟨starts.length, Calendar.bucketCount_eq_ok_iff.2 ⟨starts, run, rfl⟩, ?_⟩
  intro few
  have usual : g.usualSeconds * starts.length ≤ g.usualSeconds * g.bounds.maxBuckets :=
    Int.mul_le_mul_of_nonneg_left (Int.ofNat_le.2 few) (Int.le_of_lt g.usualSeconds_bounds.1)
  exact Calendar.leastBuckets_le opens.whole whole (Int.le_trans paced (Int.add_le_add_right usual _))

/-- A selection is normalized when the buckets between its floor and its ceiling are as
    many as a period may have. -/
theorem normalize_iff_of_count {rawStart rawStop start stop : Instant} (order : rawStart ≤ rawStop)
    (insideStart : rawStart.InsideBy 80) (insideStop : rawStop.InsideBy 80)
    (floor : (r.calendar weekStart).floor g rawStart = .ok start)
    (ceil : (r.calendar weekStart).ceil g rawStop = .ok stop) (le : start ≤ stop) {n : Nat}
    (count : (r.calendar weekStart).bucketCount g ⟨start, stop, r.id⟩ = .ok n) :
    (∃ p, (r.calendar weekStart).normalize g rawStart rawStop = .ok p) ↔ g.bounds.Contains n := by
  obtain ⟨_, again, passes⟩ := exists_count_of_selection lasting weekStart insideStart insideStop floor ceil le
  rw [count] at again
  cases again
  simp only [Calendar.normalize_of_ends order floor ceil le, Calendar.boundedPeriod_iff_counted count passes,
    Calendar.countedPeriod_of_count count, exists_eq_left]

/-- The early check never changes whether a selection has a period, nor which: where the
    check refuses, counting finds too many buckets. -/
theorem normalize_iff_counted {rawStart rawStop : Instant} (order : rawStart ≤ rawStop)
    (insideStart : rawStart.InsideBy Moment.quarterCentury) (insideStop : rawStop.InsideBy Moment.quarterCentury) :
    ∃ start stop, (r.calendar weekStart).floor g rawStart = .ok start ∧
      (r.calendar weekStart).ceil g rawStop = .ok stop ∧
      (start ≤ stop → ∃ n, (r.calendar weekStart).bucketCount g ⟨start, stop, r.id⟩ = .ok n ∧
        (g.bounds.maxBuckets < leastBuckets g start stop → g.bounds.maxBuckets < n) ∧
        ((∃ p, (r.calendar weekStart).normalize g rawStart rawStop = .ok p) ↔ g.bounds.Contains n)) ∧
      ∀ p, (r.calendar weekStart).normalize g rawStart rawStop = .ok p ↔
        (r.calendar weekStart).normalizeByCount g rawStart rawStop = .ok p := by
  have nearStart : rawStart.InsideBy 80 := insideStart.mono _ (by decide)
  have nearStop : rawStop.InsideBy 80 := insideStop.mono _ (by decide)
  obtain ⟨start, floor, _⟩ := exists_floor_opens (r := r) (g := g) weekStart (nearStart.mono 40 (by decide))
  obtain ⟨stop, ceil, _⟩ := exists_ceil_near weekStart lasting nearStop
  have counts := exists_count_of_selection lasting weekStart nearStart nearStop floor ceil
  have normalizes : ∀ p, (r.calendar weekStart).normalize g rawStart rawStop = .ok p ↔
      start ≤ stop ∧ (r.calendar weekStart).boundedPeriod g start stop = .ok p :=
    fun _ => Calendar.normalizeBy_of_ends order floor ceil
  have byCount : ∀ p, (r.calendar weekStart).normalizeByCount g rawStart rawStop = .ok p ↔
      start ≤ stop ∧ (r.calendar weekStart).countedPeriod g start stop = .ok p :=
    fun _ => Calendar.normalizeBy_of_ends order floor ceil
  refine ⟨start, stop, floor, ceil, ?_, ?_⟩
  · intro le
    obtain ⟨n, count, passes⟩ := counts le
    refine ⟨n, count, ?_, ?_⟩
    · intro refused
      by_contra few
      exact absurd (passes (Nat.not_lt.1 few)) (Nat.not_le.2 refused)
    · simp only [normalizes, le, true_and,
        Calendar.boundedPeriod_iff_counted count passes, Calendar.countedPeriod_of_count count, exists_eq_left]
  · intro p
    rw [normalizes, byCount]
    refine and_congr_right fun le => ?_
    obtain ⟨n, count, passes⟩ := counts le
    exact Calendar.boundedPeriod_iff_counted count passes

end Selection

/-- The beginning of 2024 in New York. -/
def newYear2024 : Instant := (Moment.ofSeconds? 1704085200).get (by decide)

/-- The beginning of 2036 in New York. -/
def newYear2036 : Instant := (Moment.ofSeconds? 2082776400).get (by decide)

/-- Twelve years of months in New York are refused by their length, and they are more
    months than a period may have. -/
theorem newYork2024_refused :
    ∃ start stop n, (newYork2024.calendar .monday).floor .month newYear2024 = .ok start ∧
      (newYork2024.calendar .monday).ceil .month newYear2036 = .ok stop ∧ 120 < leastBuckets .month start stop ∧
      (newYork2024.calendar .monday).bucketCount .month ⟨start, stop, "America/New_York"⟩ = .ok n ∧ 120 < n ∧
      ¬ ∃ p, (newYork2024.calendar .monday).normalize .month newYear2024 newYear2036 = .ok p := by
  have isFloor : (newYork2024.calendar .monday).floor .month newYear2024 = .ok newYear2024 := by rfl
  have isCeil : (newYork2024.calendar .monday).ceil .month newYear2036 = .ok newYear2036 := by rfl
  have order : newYear2024 ≤ newYear2036 := by decide
  obtain ⟨start, stop, floor, ceil, verdict, _⟩ := normalize_iff_counted (r := newYork2024) (g := .month)
    (fun _ => (regular_newYork2024 .month).lasting) .monday order (by decide) (by decide)
  rw [isFloor] at floor
  rw [isCeil] at ceil
  cases floor
  cases ceil
  obtain ⟨n, count, many, accepted⟩ := verdict order
  have refused := many (by decide)
  refine ⟨_, _, n, isFloor, isCeil, by decide, count, refused, ?_⟩
  rw [accepted]
  rintro ⟨_, few⟩
  exact absurd few (Nat.not_le.2 refused)

end FixedRule

end BucketPlan
