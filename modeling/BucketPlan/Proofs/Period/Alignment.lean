import BucketPlan.Proofs.Bucket.Walk
import BucketPlan.Proofs.Calendar.Aligned
import BucketPlan.Proofs.Period.Normalized

namespace BucketPlan

/-- Both ends of the period are at least that many days away from the ends of the
    representable years. -/
structure Period.InsideBy (days : Int) (p : Period) : Prop where
  start : p.start.InsideBy days
  stop : p.stop.InsideBy days

theorem Period.InsideBy.mono {days : Int} {p : Period} (inside : p.InsideBy days) (fewer : Int) (less : fewer ≤ days) :
    p.InsideBy fewer := ⟨inside.start.mono fewer less, inside.stop.mono fewer less⟩

namespace Calendar

variable {cal : Calendar} {g : Granularity} {p : Period}

theorem normalize_of_boundaries {start stop : Instant} (first : cal.Boundary g start)
    (last : cal.Boundary g stop) (le : start ≤ stop) (bounded : cal.boundedPeriod g start stop = .ok p) :
    cal.normalize g p.start p.stop = .ok p := by
  obtain ⟨_, rfl, _⟩ := boundedPeriod_eq_ok_iff.1 bounded
  exact normalize_eq_ok_iff.2 ⟨le, start, stop, first, last.ceil, le, bounded⟩

/-- The period lies between boundaries and has an allowed number of buckets. -/
structure AlignedPeriod (cal : Calendar) (g : Granularity) (p : Period) : Prop where
  first : cal.Boundary g p.start
  last : cal.Boundary g p.stop
  bounded : cal.boundedPeriod g p.start p.stop = .ok p

namespace AlignedPeriod

theorem start_lt_stop (aligned : cal.AlignedPeriod g p) : p.start < p.stop := by
  obtain ⟨_, _, n, count, within⟩ := boundedPeriod_eq_ok_iff.1 aligned.bounded
  exact (pos_bucketCount_iff count).1 (Granularity.pos_of_contains within)

theorem normalize (aligned : cal.AlignedPeriod g p) : cal.normalize g p.start p.stop = .ok p :=
  normalize_of_boundaries aligned.first aligned.last (le_of_lt aligned.start_lt_stop) aligned.bounded

end AlignedPeriod

end Calendar

namespace FixedRule

variable {r : FixedRule} {g : Granularity}

/-- A normalized period away from the ends is aligned. -/
theorem alignedPeriod_of_normalize (aligns : r.Aligns g) {weekStart : Weekday} {rawStart rawStop : Instant}
    {p : Period} (inside : p.InsideBy 200)
    (normalized : (r.calendar weekStart).normalize g rawStart rawStop = .ok p) :
    (r.calendar weekStart).AlignedPeriod g p := by
  obtain ⟨order, start, stop, floor, ceil, _, bounded⟩ := Calendar.normalize_eq_ok_iff.1 normalized
  obtain ⟨_, rfl, _⟩ := Calendar.boundedPeriod_eq_ok_iff.1 bounded
  have fromStart := Calendar.floor_near floor
  have fromStop := Calendar.lt_of_ceil ceil
  obtain ⟨insideStart, insideStop⟩ := inside
  simp only [Moment.insideBy_def] at insideStart insideStop
  rw [Moment.le_def, Moment.lt_def] at order
  obtain ⟨_, isFloor, first⟩ := aligns.floor weekStart (t := rawStart) (by rw [Moment.insideBy_def]; omega)
  obtain ⟨_, isCeil, last⟩ := aligns.ceil weekStart (t := rawStop) (by rw [Moment.insideBy_def]; omega)
  rw [floor] at isFloor
  rw [ceil] at isCeil
  cases isFloor
  cases isCeil
  exact ⟨first, last, bounded⟩

/-- The ends of a normalized selection are boundaries, and normalizing them gives the
    same period again. -/
theorem normalize_aligned (aligns : r.Aligns g) (weekStart : Weekday) {rawStart rawStop : Instant}
    (insideStart : rawStart.InsideBy Moment.quarterCentury) (insideStop : rawStop.InsideBy Moment.quarterCentury)
    {p : Period} (accepted : (r.calendar weekStart).normalize g rawStart rawStop = .ok p) :
    (r.calendar weekStart).isBoundary g p.start = .ok true ∧
      (r.calendar weekStart).isBoundary g p.stop = .ok true ∧
      (r.calendar weekStart).normalize g p.start p.stop = .ok p := by
  obtain ⟨_, start, stop, floor, ceil, le, bounded⟩ := Calendar.normalize_eq_ok_iff.1 accepted
  obtain ⟨f, isFloor, first⟩ := aligns.floor weekStart (insideStart.mono 80 (by decide))
  obtain ⟨c, isCeil, last⟩ := aligns.ceil weekStart (insideStop.mono 120 (by decide))
  rw [isFloor] at floor
  rw [isCeil] at ceil
  cases floor
  cases ceil
  refine ⟨?_, ?_, Calendar.normalize_of_boundaries first last le bounded⟩
  · obtain ⟨_, rfl, _⟩ := Calendar.boundedPeriod_eq_ok_iff.1 bounded
    exact Calendar.isBoundary_iff.2 first
  · obtain ⟨_, rfl, _⟩ := Calendar.boundedPeriod_eq_ok_iff.1 bounded
    exact Calendar.isBoundary_iff.2 last

/-- Two months of New York, the second one an hour short. -/
theorem newYork2024_aligned :
    ∃ p, (newYork2024.calendar .sunday).normalize .month (.midnight ⟨19763, by decide, by decide⟩)
        (.midnight ⟨19793, by decide, by decide⟩) = .ok p ∧
      (newYork2024.calendar .sunday).isBoundary .month p.start = .ok true ∧
      (newYork2024.calendar .sunday).isBoundary .month p.stop = .ok true ∧
      (newYork2024.calendar .sunday).normalize .month p.start p.stop = .ok p := by
  have accepted : (newYork2024.calendar .sunday).normalize .month (.midnight ⟨19763, by decide, by decide⟩)
      (.midnight ⟨19793, by decide, by decide⟩) = .ok ⟨(Moment.ofSeconds? 1706763600).get (by decide),
        (Moment.ofSeconds? 1711944000).get (by decide), "America/New_York"⟩ := by decide +kernel
  have aligns := (regular_newYork2024 .month).aligns
  exact ⟨_, accepted, normalize_aligned aligns .sunday (by decide) (by decide) accepted⟩

end FixedRule

end BucketPlan
