import BucketPlan.Proofs.Comparison.PreviousPeriod
import BucketPlan.Proofs.Period.Alignment
import BucketPlan.Proofs.Period.EarlyCheck

namespace BucketPlan

namespace Calendar

variable {cal : Calendar} {g : Granularity} {p main : Period}

/-- The ends of a comparison, given as a selection of their own, ask for the same comparison. -/
theorem resolveComparison_custom {mode : CompareMode}
    (answer : cal.resolveComparison g main mode = .ok (some p)) (aligned : cal.AlignedPeriod g p) :
    cal.resolveComparison g main (.custom p.start p.stop) = .ok (some p) := by
  obtain ⟨n, count, _, even⟩ := resolveComparison_eq_ok_iff.1 answer
  have asked : cal.comparePeriod g main n (.custom p.start p.stop) = .ok (some p) := by
    rw [comparePeriod, aligned.normalize]
    rfl
  exact resolveComparison_eq_ok_iff.2 ⟨n, count, asked, even⟩

theorem stop_of_previousPeriod {n : Nat} (run : cal.previousPeriod g main n = .ok p) : p.stop = main.start := by
  simp only [previousPeriod, bind_eq_ok_iff, pure_eq_ok_iff] at run
  obtain ⟨_, _, _, _, rfl⟩ := run
  rfl

theorem exists_normalize_of_previousYear {n : Nat} (run : cal.previousYear g main n = .ok p) :
    ∃ rawStart rawStop, cal.normalize g rawStart rawStop = .ok p := by
  simp only [previousYear, bind_eq_ok_iff] at run
  obtain ⟨_, _, _, _, _, _, start, _, _, _, _, _, _, _, _, _, stop, _, normalized⟩ := run
  exact ⟨start, stop, normalized⟩

end Calendar

namespace FixedRule

variable {r : FixedRule} {g : Granularity} {weekStart : Weekday} {rawStart rawStop : Instant} {p main compare : Period}

/-- Over a regular rule a normalized period is compared with an aligned one. -/
theorem alignedPeriod_of_comparison (regular : r.Regular g)
    (normalized : (r.calendar weekStart).normalize g rawStart rawStop = .ok main) {mode : CompareMode}
    (answer : (r.calendar weekStart).resolveComparison g main mode = .ok (some compare))
    (inside : compare.InsideBy Moment.quarterCentury) : (r.calendar weekStart).AlignedPeriod g compare := by
  obtain ⟨n, count, asked, even⟩ := Calendar.resolveComparison_eq_ok_iff.1 answer
  cases mode with
  | off => cases asked
  | previousPeriod =>
    obtain ⟨_, derived, same⟩ := map_eq_ok_iff.1 asked
    cases same
    have meets := Calendar.stop_of_previousPeriod derived
    obtain ⟨_, start, stop, floor, _, _, bounded⟩ := Calendar.normalize_eq_ok_iff.1 normalized
    obtain ⟨_, rfl, k, counted, within⟩ := Calendar.boundedPeriod_eq_ok_iff.1 bounded
    rw [count] at counted
    cases counted
    have far : start.InsideBy 9131 := by
      have stops := inside.stop
      rwa [meets] at stops
    have near := Calendar.floor_near floor
    obtain ⟨_, isFloor, boundary⟩ := regular.aligns.floor weekStart (t := rawStart)
      (by rw [Moment.insideBy_def] at *; omega)
    rw [floor] at isFloor
    cases isFloor
    obtain ⟨earlier, _, _, _, first, resolved⟩ := (regular.ordered weekStart).resolveComparison_previousPeriod
      boundary (far.mono 8760 (by decide)) count within.2 (Granularity.pos_of_contains within)
    rw [resolved] at answer
    cases answer
    have compared : (r.calendar weekStart).bucketCount g ⟨earlier, start, r.id⟩ = .ok n := even _ rfl
    have order : earlier < start := (Calendar.pos_bucketCount_iff compared).1 (Granularity.pos_of_contains within)
    refine ⟨first, boundary, ?_⟩
    obtain ⟨m, counts, passes⟩ := exists_count_of_selection (fun _ => regular.lasting) weekStart
      (inside.start.mono 80 (by decide)) (far.mono 80 (by decide)) first boundary.ceil (le_of_lt order)
    rw [compared] at counts
    cases counts
    exact Calendar.boundedPeriod_eq_ok_iff.2 ⟨passes within.2, rfl, n, compared, within⟩
  | previousYear =>
    obtain ⟨_, derived, same⟩ := map_eq_ok_iff.1 asked
    cases same
    obtain ⟨_, _, again⟩ := Calendar.exists_normalize_of_previousYear derived
    exact alignedPeriod_of_normalize regular.aligns (inside.mono 200 (by decide)) again
  | custom _ _ =>
    obtain ⟨_, again, same⟩ := map_eq_ok_iff.1 asked
    cases same
    exact alignedPeriod_of_normalize regular.aligns (inside.mono 200 (by decide)) again

end FixedRule

end BucketPlan
