import BucketPlan.Proofs.Comparison.Resolved
import BucketPlan.Proofs.Limits.Period

/-!
For the period before an accepted one a walk goes back over as many buckets, and in the
first years it may run out of them (`RunsOut`). By the calendar the comparison then
overflows (`previousPeriod_byDate`). By the clock it does not, but the period that is
found starts before the clock shows anything (`previousPeriod_byClock_runsOut`). All
other periods before are shown by the clock (`previousPeriod_byClock`).
-/

namespace BucketPlan.Calendar

/-- Going back by as many buckets from the start of a period leaves the representable
    years: past the first date of all, or to its beginning by a clock that is ahead of UTC.
    Whole units of the clock are gone back over as long as their instants are representable,
    so with these what the clock would show decides. -/
def RunsOut (cal : Calendar) (early : Offset) (g : Granularity) (start : Instant) (n : Nat) : Prop :=
  match g.unitSeconds? with
  | none => ∃ d, cal.dateOf start = .ok d ∧
      (0 < early.seconds ∧ cal.leadsBefore g d ≤ n ∨ early.seconds < 0 ∧ cal.leadsBefore g d < n)
  | some unit => early.seconds < 0 ∧ cal.zone.clock start - firstSecond < unit * n ∧
      unit * (n : Int) - unit < start.seconds - firstSecond

variable {cal : Calendar} {g : Granularity} {early late : Offset} {main : Period} {n : Nat}

section Settled
variable (settled : cal.zone.Settled early late)
include settled

section PreviousPeriod
variable (accepted : cal.Accepted g main n)
include accepted

omit settled in
theorem previousPeriod_eq_ok_iff {p : Period} :
    cal.comparePeriod g main n .previousPeriod = .ok (some p) ↔
      ∃ f, walk (cal.previous g) n main.start = .ok (some f) ∧ p = ⟨f, main.start, main.timezone⟩ := by
  simp only [comparePeriod, map_eq_ok_iff, previousPeriod, step_neg n main.start accepted.pos, bind_eq_ok_iff,
    Overflow.monadLift_eq_ok_iff, pure_eq_ok_iff]
  constructor
  · rintro ⟨q, ⟨a, walked, f, found, rfl⟩, same⟩
    cases a with
    | none => cases found
    | some e =>
      cases found
      exact ⟨f, walked, (Option.some.inj same).symm⟩
  · rintro ⟨f, walked, rfl⟩
    exact ⟨_, ⟨some f, walked, f, rfl, rfl⟩, rfl⟩

omit settled in
theorem previousPeriod_overflow_iff :
    cal.comparePeriod g main n .previousPeriod = .error .overflow ↔
      walk (cal.previous g) n main.start = .error .outOfRange := by
  simp only [comparePeriod, map_eq_error_iff, previousPeriod, step_neg n main.start accepted.pos, bind_eq_error_iff,
    Overflow.monadLift_eq_error_iff, pure_ne_error]
  refine ⟨?_, .inl⟩
  rintro (error | ⟨a, _, error | ⟨_, _, impossible⟩⟩)
  · exact error
  · cases a <;> simp [orRefused] at error
  · exact impossible.elim

omit settled in
/-- Only in the first years the buckets run out. -/
theorem RunsOut.low (out : cal.RunsOut early g main.start n) : main.start.seconds < -3000000000000 := by
  have few := accepted.le
  unfold RunsOut at out
  split at out
  · obtain ⟨d, date, reached⟩ := out
    have near := dateOf_near date
    have many : d.day - firstDay ≤ 31 * cal.leadsBefore g d := le_leadsBefore g d
    unfold firstDay at many
    omega
  · next unit byClock =>
    have clock := cal.zone.clock_near main.start
    obtain ⟨_, less, _⟩ := out
    unfold firstSecond at less
    rcases Granularity.clockUnit byClock with rfl | rfl <;> omega

theorem exists_walk_of_far (far : -3000000000000 ≤ main.start.seconds) :
    ∃ f, walk (cal.previous g) n main.start = .ok (some f) ∧ cal.zone.Shows f ∧
      main.start.seconds - 86400 * 40 * n ≤ f.seconds := by
  have few := accepted.le
  obtain ⟨f, walked, shows, _, near⟩ :=
    walk_previous_far (g := g) settled n accepted.shown.start accepted.shown.wholeStart (by omega)
  exact ⟨f, walked, shows, near⟩

/-- By the calendar the walk back overflows where the buckets run out, and else it ends at what
    the clock shows. -/
theorem walk_byDate (byDate : g.unitSeconds? = none) :
    (walk (cal.previous g) n main.start = .error .outOfRange ↔ cal.RunsOut early g main.start n) ∧
      ∀ f, walk (cal.previous g) n main.start = .ok (some f) → cal.zone.Shows f := by
  rcases Int.lt_or_le main.start.seconds (-3000000000000) with low | far
  · obtain ⟨d, begins⟩ := accepted.begins low
    obtain ⟨overflow, ends⟩ := walk_previous_low settled byDate n begins
    rw [overflow]
    refine ⟨?_, ?_⟩
    · simp only [RunsOut, byDate, begins.dateOf, Except.ok.injEq, exists_eq_left']
    · intro f walked
      obtain ⟨e, beginsF⟩ := ends f walked
      exact beginsF.shows
  · obtain ⟨f, walked, shows, _⟩ := exists_walk_of_far settled accepted far
    have stays : ¬ cal.RunsOut early g main.start n := fun out => by
      have low := RunsOut.low accepted out
      omega
    simp only [walked, reduceCtorEq, stays, Except.ok.injEq, Option.some.injEq, forall_eq', shows, and_self]

/-- A period before by the calendar: an overflow where the buckets run out, else nothing or
    what the clock shows. -/
theorem previousPeriod_byDate (byDate : g.unitSeconds? = none) :
    (cal.resolveComparison g main .previousPeriod = .error .overflow ↔ cal.RunsOut early g main.start n) ∧
      ∀ p, cal.resolveComparison g main .previousPeriod = .ok (some p) → cal.ShownPeriod p := by
  obtain ⟨overflow, ends⟩ := walk_byDate settled accepted byDate
  constructor
  · rw [resolveComparison_overflow_iff accepted.count, previousPeriod_overflow_iff accepted, overflow]
    intro p asked
    obtain ⟨f, walked, rfl⟩ := (previousPeriod_eq_ok_iff accepted).1 asked
    obtain ⟨starts, listed⟩ := exists_bucketStarts_settled (g := g) (p := ⟨f, main.start, main.timezone⟩) settled
      (fun _ => ends f walked) accepted.shown.start
    exact ⟨starts.length, bucketCount_eq_ok_iff.2 ⟨starts, listed, rfl⟩⟩
  · intro p answer
    obtain ⟨asked, count⟩ := comparePeriod_of_resolve accepted.count answer
    obtain ⟨f, walked, rfl⟩ := (previousPeriod_eq_ok_iff accepted).1 asked
    exact ⟨ends f walked, accepted.shown.start, walk_previous_nanos n accepted.shown.wholeStart walked,
      accepted.shown.wholeStart, (pos_bucketCount_iff count).1 accepted.pos⟩

section ByClock
variable {unit : Nat} (byClock : g.unitSeconds? = some unit)
include byClock

omit accepted in
/-- The buckets between an instant of the first years and the start of the main period are as many
    as its units. -/
theorem unitsBetween {f : Instant} {k : Nat} {d : Date} (begins : cal.BeginsAt g d main.start)
    (low : main.start.seconds < -1100000000000) (whole : f.nanos = 0) (before : f < main.start)
    (count : cal.bucketCount g ⟨f, main.start, main.timezone⟩ = .ok k) :
    main.start.seconds - f.seconds ≤ unit * k ∧ unit * k < main.start.seconds - f.seconds + unit := by
  obtain ⟨starts, listed, rfl⟩ := bucketCount_eq_ok_iff.1 count
  have on : cal.zone.clock main.start % (unit : Int) = 0 := by
    rw [begins.clock]
    rcases Granularity.clockUnit byClock with rfl | rfl <;> omega
  exact unitsBetween_of_yields settled byClock low (bucketStarts_eq_ok_iff.1 listed) rfl rfl begins.whole on rfl
    whole before

/-- By the clock a period before is found where the buckets run out, but it starts before the
    clock shows anything. -/
theorem previousPeriod_byClock_runsOut (out : cal.RunsOut early g main.start n) :
    ∃ p, cal.resolveComparison g main .previousPeriod = .ok (some p) ∧ p.start.nanos = 0 ∧
      cal.zone.clock p.start < firstSecond := by
  have low := RunsOut.low accepted out
  have isUnit := Granularity.clockUnit byClock
  obtain ⟨d, begins⟩ := accepted.begins low
  have clock := begins.clock
  have seconds := begins.seconds settled
  have origin := firstSecond_eq
  have on : cal.zone.clock main.start % (unit : Int) = 0 := by rcases isUnit with rfl | rfl <;> omega
  simp only [RunsOut, byClock] at out
  obtain ⟨west, reached, representable⟩ := out
  obtain ⟨steps, rfl⟩ : ∃ k, n = k + 1 := ⟨n - 1, by have := accepted.pos; omega⟩
  have further : (unit : Int) * (steps + 1 : Nat) = unit * steps + unit := by
    rw [Int.natCast_succ, Int.mul_add, Int.mul_one]
  obtain ⟨f, walked, whole, least, less⟩ :=
    walk_previous_byClock settled byClock (by omega) steps begins.whole on (by omega)
  have positive : 0 ≤ (unit : Int) * steps := Int.mul_nonneg (Int.natCast_nonneg _) (Int.natCast_nonneg _)
  have before : f < main.start := by
    rw [Moment.lt_iff_seconds begins.whole]
    omega
  have asked := (previousPeriod_eq_ok_iff accepted).2 ⟨f, walked, rfl⟩
  obtain ⟨starts, listed⟩ := exists_bucketStarts_settled (g := g) (p := ⟨f, main.start, main.timezone⟩) settled
    (fun byDate => by rw [byClock] at byDate; cases byDate) accepted.shown.start
  have count := bucketCount_eq_ok_iff.2 ⟨starts, listed, rfl⟩
  obtain ⟨few, many⟩ := unitsBetween settled byClock begins (by omega) whole before count
  have same : starts.length = steps + 1 := by rcases isUnit with rfl | rfl <;> omega
  have answer := resolveComparison_of_period accepted.count asked count
  rw [if_pos same] at answer
  have clockF := settled.clock_early (t := f) (by omega)
  have clockM := settled.clock_early (t := main.start) (by omega)
  have hidden : cal.zone.clock f < firstSecond := by rcases isUnit with rfl | rfl <;> omega
  exact ⟨_, answer, whole, hidden⟩

/-- By the clock a period before never overflows; where the buckets do not run out it is shown. -/
theorem previousPeriod_byClock :
    cal.resolveComparison g main .previousPeriod ≠ .error .overflow ∧
      ∀ p, cal.resolveComparison g main .previousPeriod = .ok (some p) → ¬ cal.RunsOut early g main.start n →
        cal.ShownPeriod p := by
  have isUnit := Granularity.clockUnit byClock
  constructor
  · rw [ne_eq, resolveComparison_overflow_iff accepted.count, previousPeriod_overflow_iff accepted]
    · obtain ⟨a, walked⟩ : ∃ a, walk (cal.previous g) n main.start = .ok a := exists_walk_byClock byClock n main.start
      simp [walked]
    · intro p asked
      obtain ⟨f, walked, rfl⟩ := (previousPeriod_eq_ok_iff accepted).1 asked
      obtain ⟨starts, listed⟩ := exists_bucketStarts_settled (g := g) (p := ⟨f, main.start, main.timezone⟩) settled
        (fun byDate => by rw [byClock] at byDate; cases byDate) accepted.shown.start
      exact ⟨starts.length, bucketCount_eq_ok_iff.2 ⟨starts, listed, rfl⟩⟩
  · intro p answer stays
    obtain ⟨asked, count⟩ := comparePeriod_of_resolve accepted.count answer
    obtain ⟨f, walked, rfl⟩ := (previousPeriod_eq_ok_iff accepted).1 asked
    have whole := walk_previous_nanos n accepted.shown.wholeStart walked
    have before := (pos_bucketCount_iff count).1 accepted.pos
    have le : f.seconds < main.start.seconds := (Moment.lt_iff_seconds accepted.shown.wholeStart).1 before
    refine ⟨⟨?_, settled.clock_le_midnight accepted.shown.start.le_midnight (Int.le_of_lt le)⟩, accepted.shown.start,
      whole, accepted.shown.wholeStart, before⟩
    -- Before the clock shows anything, the whole walk is in the first years.
    by_contra hidden
    apply stays
    have few := accepted.le
    have first := f.first_le
    have clock := cal.zone.clock_near f
    have hidden : cal.zone.clock f < firstSecond := Int.not_le.1 hidden
    unfold firstSecond at first hidden
    have low : main.start.seconds < -3000000000000 := by
      by_contra far
      obtain ⟨e, again, _, near⟩ := exists_walk_of_far (g := g) settled accepted (Int.not_lt.1 far)
      rw [walked] at again
      cases again
      omega
    obtain ⟨d, begins⟩ := accepted.begins low
    obtain ⟨least, less⟩ := unitsBetween settled byClock begins (by omega) whole before count
    have clockF := settled.clock_early (t := f) (by omega)
    have clockM := settled.clock_early (t := main.start) (by omega)
    simp only [RunsOut, byClock]
    unfold firstSecond
    omega

end ByClock

end PreviousPeriod

end Settled

end BucketPlan.Calendar
