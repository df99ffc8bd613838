import BucketPlan.Proofs.Bucket.Tiling
import BucketPlan.Proofs.Comparison.Resolved

namespace BucketPlan

theorem Granularity.maxBuckets_reach (g : Granularity) : g.reach * g.bounds.maxBuckets ≤ 8640 := by
  cases g <;> decide

namespace Calendar

variable {cal : Calendar} {g : Granularity}

/-- A walk back from a boundary tiles the time that it goes back over, and ends at a
    boundary. -/
theorem Ordered.walk_previous (ordered : cal.Ordered g) (steps : Nat) {stop : Instant}
    (boundary : cal.Boundary g stop) (inside : stop.InsideBy (120 + g.reach * steps)) :
    ∃ start starts, walk (cal.previous g) steps stop = .ok (some start) ∧ cal.Tiles g stop start starts ∧
      starts.length = steps ∧ cal.Boundary g start := by
  induction steps generalizing stop with
  | zero => exact ⟨stop, [], rfl, .done, rfl, boundary⟩
  | succ steps ih =>
    have reach := g.reach_bounds
    have far : g.reach * (steps + 1 : Nat) = g.reach * steps + g.reach := by
      rw [Int.natCast_succ, Int.mul_add, Int.mul_one]
    have room : 0 ≤ g.reach * steps := Int.mul_nonneg (by omega) (Int.natCast_nonneg _)
    obtain ⟨before, previous, adjacent, near⟩ :=
      ordered.previous_adjacent (inside.mono 120 (by omega)) boundary
    have earlier := (Moment.lt_iff_seconds boundary.nanos).1 adjacent.later
    obtain ⟨start, starts, walked, tiles, length, isStart⟩ :=
      ih adjacent.first (by rw [Moment.insideBy_def] at *; omega)
    refine ⟨start, starts ++ [before], ?_, tiles.append (.step adjacent .done), ?_, isStart⟩
    · exact bind_eq_ok_iff.2 ⟨some before, previous, walked⟩
    · rw [List.length_append, length, List.length_singleton]

/-- In an ordered calendar the period before a period that starts at a boundary has as
    many buckets, and starts at a boundary itself. -/
theorem Ordered.resolveComparison_previousPeriod (ordered : cal.Ordered g) {main : Period}
    (boundary : cal.Boundary g main.start) (inside : main.start.InsideBy 8760) {n : Nat}
    (count : cal.bucketCount g main = .ok n) (few : n ≤ g.bounds.maxBuckets) (some_bucket : 0 < n) :
    ∃ start starts, cal.Tiles g main.start start starts ∧ starts.length = n ∧ cal.Boundary g start ∧
      cal.resolveComparison g main .previousPeriod = .ok (some ⟨start, main.start, main.timezone⟩) := by
  have reach := g.reach_bounds
  have most := g.maxBuckets_reach
  have less : g.reach * n ≤ g.reach * g.bounds.maxBuckets :=
    Int.mul_le_mul_of_nonneg_left (Int.ofNat_le.2 few) (by omega)
  obtain ⟨start, starts, walked, tiles, length, isStart⟩ :=
    ordered.walk_previous n boundary (inside.mono _ (by omega))
  refine ⟨start, starts, tiles, length, isStart, ?_⟩
  have step : cal.step g (-(n : Int)) main.start = .ok (some start) := (step_neg n main.start some_bucket).trans walked
  have derived : cal.previousPeriod g main n = .ok ⟨start, main.start, main.timezone⟩ :=
    bind_eq_ok_iff.2 ⟨some start, Overflow.monadLift_eq_ok_iff.2 step, rfl⟩
  have compare : cal.comparePeriod g main n .previousPeriod = .ok (some ⟨start, main.start, main.timezone⟩) := by
    rw [comparePeriod, derived]
    rfl
  have same : cal.bucketCount g ⟨start, main.start, main.timezone⟩ = .ok n :=
    bind_eq_ok_iff.2 ⟨starts, tiles.bucketStarts, congrArg Except.ok length⟩
  rw [resolveComparison_of_period count compare same, if_pos rfl]

end Calendar

namespace FixedRule

/-- Over a regular rule the comparison of a normalized period with the one before it
    has an answer: a period in the same zone that ends where the main one starts, its
    bucket starts just as many boundaries, the last ones before. -/
theorem previousPeriod_exact {r : FixedRule} {g : Granularity} (regular : r.Regular g) (weekStart : Weekday)
    {rawStart rawStop : Instant} {main : Period}
    (normalized : (r.calendar weekStart).normalize g rawStart rawStop = .ok main)
    (inside : main.start.InsideBy Moment.quarterCentury) :
    ∃ n p starts, (r.calendar weekStart).bucketCount g main = .ok n ∧
      (r.calendar weekStart).resolveComparison g main .previousPeriod = .ok (some p) ∧
      p.stop = main.start ∧ p.timezone = main.timezone ∧ (r.calendar weekStart).bucketStarts g p = .ok starts ∧
      starts.length = n ∧ starts.Pairwise (· < ·) ∧
      ∀ b, b ∈ starts ↔ (r.calendar weekStart).isBoundary g b = .ok true ∧ p.start ≤ b ∧ b < main.start := by
  obtain ⟨_, start, stop, floor, _, _, bounded⟩ := Calendar.normalize_eq_ok_iff.1 normalized
  obtain ⟨_, rfl, n, count, enough, few⟩ := Calendar.boundedPeriod_eq_ok_iff.1 bounded
  -- The start is a floor, and the selection was not far from it.
  have near := Calendar.floor_near floor
  have insideStart : start.InsideBy 9131 := inside
  have insideRaw : rawStart.InsideBy 80 := by rw [Moment.insideBy_def] at *; omega
  obtain ⟨_, isFloor, boundary⟩ := regular.aligns.floor weekStart insideRaw
  rw [floor] at isFloor
  cases isFloor
  have some_bucket : 0 < n := by
    have least : 1 ≤ g.bounds.minBuckets := by cases g <;> decide
    omega
  obtain ⟨first, starts, tiles, length, _, answer⟩ :=
    (regular.ordered weekStart).resolveComparison_previousPeriod boundary (insideStart.mono 8760 (by decide)) count few
      some_bucket
  refine ⟨n, _, starts, count, answer, rfl, rfl, tiles.bucketStarts, length, tiles.increasing, ?_⟩
  intro b
  rw [tiles.mem_iff, Calendar.isBoundary_iff]

/-- In New York 10 March is an hour short; with 11 March it is compared with the two
    days before. -/
theorem newYork2024_previousPeriod :
    ∃ main n p starts, (newYork2024.calendar .monday).normalize .day (.midnight ⟨19793, by decide, by decide⟩)
        (.midnight ⟨19794, by decide, by decide⟩) = .ok main ∧
      (newYork2024.calendar .monday).bucketCount .day main = .ok n ∧
      (newYork2024.calendar .monday).resolveComparison .day main .previousPeriod = .ok (some p) ∧
      p.stop = main.start ∧ p.timezone = main.timezone ∧
      (newYork2024.calendar .monday).bucketStarts .day p = .ok starts ∧
      starts.length = n ∧ starts.Pairwise (· < ·) ∧
      ∀ b, b ∈ starts ↔
        (newYork2024.calendar .monday).isBoundary .day b = .ok true ∧ p.start ≤ b ∧ b < main.start := by
  have normalized : (newYork2024.calendar .monday).normalize .day (.midnight ⟨19793, by decide, by decide⟩)
      (.midnight ⟨19794, by decide, by decide⟩) = .ok ⟨(Moment.ofSeconds? 1710046800).get (by decide),
        (Moment.ofSeconds? 1710216000).get (by decide), "America/New_York"⟩ := by decide +kernel
  obtain ⟨n, p, starts, exactly⟩ :=
    previousPeriod_exact (regular_newYork2024 .day) .monday normalized (by decide)
  exact ⟨_, n, p, starts, normalized, exactly⟩

end FixedRule

end BucketPlan
