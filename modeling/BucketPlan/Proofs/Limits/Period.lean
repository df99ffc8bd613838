import BucketPlan.Comparison.Resolve
import BucketPlan.Proofs.Limits.WalkBack
import BucketPlan.Proofs.Period.Normalized

namespace BucketPlan

/-- The moment is more than 2·10¹² seconds from 1970, which are 63377 years. -/
def Moment.Remote (m : Moment) : Prop := m.seconds < -2000000000000 ∨ 2000000000000 < m.seconds

namespace Calendar

/-- The clock shows the instant, which is a whole second when it is remote. -/
structure Sound (cal : Calendar) (t : Instant) : Prop where
  shows : cal.zone.Shows t
  whole (remote : t.Remote) : t.nanos = 0

/-- The clock shows the instant, and midnight when it is remote. -/
structure Bounding (cal : Calendar) (t : Instant) : Prop extends cal.Sound t where
  midnight (remote : t.Remote) : cal.zone.clock t % 86400 = 0

theorem Bounding.final {cal : Calendar} {t : Instant} (bounding : cal.Bounding t) : cal.Final t := by
  intro late
  have remote : t.Remote := .inr (by unfold lastSecond at late; omega)
  exact ⟨bounding.whole remote, bounding.midnight remote⟩

/-- The period is between two whole seconds that the clock shows. -/
structure ShownPeriod (cal : Calendar) (p : Period) : Prop where
  start : cal.zone.Shows p.start
  stop : cal.zone.Shows p.stop
  wholeStart : p.start.nanos = 0
  wholeStop : p.stop.nanos = 0
  order : p.start < p.stop

/-- What is known of a period that was accepted for a selection. -/
structure Accepted (cal : Calendar) (g : Granularity) (main : Period) (n : Nat) : Prop where
  shown : cal.ShownPeriod main
  count : cal.bucketCount g main = .ok n
  within : g.bounds.Contains n
  short : main.stop.seconds ≤ main.start.seconds + 86400 * 3800
  begins (low : main.start.seconds < -3000000000000) : ∃ d, cal.BeginsAt g d main.start

theorem Accepted.pos {cal : Calendar} {g : Granularity} {main : Period} {n : Nat} (accepted : cal.Accepted g main n) :
    0 < n := Granularity.pos_of_contains accepted.within

/-- No granularity allows more than 2880 buckets. -/
theorem Accepted.le {cal : Calendar} {g : Granularity} {main : Period} {n : Nat} (accepted : cal.Accepted g main n) :
    n ≤ 2880 := by
  have most : g.bounds.maxBuckets ≤ 2880 := by cases g <;> decide
  exact Nat.le_trans accepted.within.2 most

variable {cal : Calendar} {g : Granularity} {early late : Offset} (settled : cal.zone.Settled early late)
include settled

/-- The buckets up to a midnight can be listed; buckets cut by the calendar, where the clock
    shows the start. -/
theorem exists_bucketStarts_settled {p : Period} (start : g.unitSeconds? = none → cal.zone.Shows p.start)
    (stop : cal.zone.Shows p.stop) : ∃ starts, cal.bucketStarts g p = .ok starts := by
  apply exists_bucketStarts
  intro t le before
  cases cut : g.unitSeconds? with
  | some unit => exact ⟨_, by simp only [next, cut]; rfl⟩
  | none =>
    obtain ⟨following, next, _⟩ := exists_next settled g (t := t)
      (settled.shows_between (start cut) stop (Moment.seconds_le le) (Moment.seconds_le (le_of_lt before)))
    exact ⟨following, next⟩

/-! ## Aligned selections -/

section Normalize
variable {rawStart rawStop : Instant} (start : cal.Sound rawStart) (stop : cal.Sound rawStop)
  (final : cal.Final rawStop)
include start stop final

/-- Aligning a selection overflows just where it begins in a bucket that is cut off. -/
theorem normalize_overflow_iff :
    cal.normalize g rawStart rawStop = .error .overflow ↔ rawStart ≤ rawStop ∧ cal.CutOff early g rawStart := by
  have floors := floor_overflow_iff (g := g) settled start.shows
  by_cases reversed : rawStop < rawStart
  · simp [normalize, reversed, not_le.2 reversed]
  · have order : rawStart ≤ rawStop := not_lt.1 reversed
    simp only [normalize, reversed, if_false, order, true_and, bind_eq_error_iff, Overflow.monadLift_eq_error_iff,
      Overflow.monadLift_eq_ok_iff, floors]
    refine ⟨?_, .inl⟩
    rintro (cut | ⟨f, floor, cut | ⟨c, ceil, error⟩⟩)
    · exact cut
    · -- Where the end is cut off, so is the start before it.
      rw [ceil_overflow_iff settled stop.shows] at cut
      have low := cut.low
      have le := Moment.seconds_le order
      unfold firstSecond at low
      exact cut.of_le settled le start.shows (start.whole (.inl (by omega))) stop.shows
        (stop.whole (.inl (by omega)))
    · obtain ⟨starts, listed⟩ := exists_bucketStarts_settled (g := g) (p := ⟨f, c, cal.zone.id⟩) settled
        (fun _ => shows_floor settled start.shows floor) (shows_ceil settled stop.shows final ceil)
      have count : (liftM (cal.bucketCount g ⟨f, c, cal.zone.id⟩) : Except Failure Nat) = .ok starts.length :=
        Overflow.monadLift_eq_ok_iff.2 (bucketCount_eq_ok_iff.2 ⟨starts, listed, rfl⟩)
      simp only [boundedPeriod, count, bind, Except.bind, pure, Except.pure] at error
      split_ifs at error <;> simp [throw_eq_error_iff] at error

/-- An accepted period is between whole seconds that the clock shows. -/
theorem shownPeriod_of_normalize {p : Period} (run : cal.normalize g rawStart rawStop = .ok p) :
    cal.ShownPeriod p := by
  obtain ⟨n, count, within⟩ := normalize_count run
  obtain ⟨_, f, c, floor, ceil, _, bounded⟩ := normalize_eq_ok_iff.1 run
  obtain ⟨_, rfl, _⟩ := boundedPeriod_eq_ok_iff.1 bounded
  exact ⟨shows_floor settled start.shows floor, shows_ceil settled stop.shows final ceil, floor_nanos floor,
    ceil_nanos ceil, (pos_bucketCount_iff count).1 (Granularity.pos_of_contains within)⟩

omit stop final in
theorem beginsAt_of_normalize (midnight : rawStart.Remote → cal.zone.clock rawStart % 86400 = 0) {p : Period}
    (run : cal.normalize g rawStart rawStop = .ok p) (low : p.start.seconds < -3000000000000) :
    ∃ d, cal.BeginsAt g d p.start := by
  obtain ⟨_, f, c, floor, _, _, bounded⟩ := normalize_eq_ok_iff.1 run
  obtain ⟨_, rfl, _⟩ := boundedPeriod_eq_ok_iff.1 bounded
  have near := floor_near floor
  have before : f.seconds < -3000000000000 := low
  have remote : rawStart.Remote := .inl (by omega)
  have whole := start.whole remote
  have level := midnight remote
  have clock := cal.zone.clock_near rawStart
  obtain ⟨d, date, exact⟩ := exists_dateOf start.shows
  have day := exact whole
  cases byClock : g.unitSeconds? with
  | none => exact ⟨_, BeginsAt.of_floor settled byClock date (by omega) floor⟩
  | some unit =>
    have on : cal.zone.clock rawStart % (unit : Int) = 0 := by
      rcases Granularity.clockUnit byClock with rfl | rfl <;> omega
    simp only [Calendar.floor, byClock, clockFloor_of_onUnit whole on, Except.ok.injEq] at floor
    subst floor
    have begins : cal.BeginsAt g d rawStart := ⟨whole, by omega, cal.bucketDate_byClock byClock d, by omega⟩
    exact ⟨d, begins⟩

end Normalize

/-! ## Accepted periods -/

theorem accepted_of_normalize {rawStart rawStop : Instant} {main : Period} (start : cal.Bounding rawStart)
    (stop : cal.Bounding rawStop) (run : cal.normalize g rawStart rawStop = .ok main) :
    ∃ n, cal.Accepted g main n := by
  obtain ⟨n, count, within⟩ := normalize_count run
  have shown := shownPeriod_of_normalize settled start.toSound stop.toSound stop.final run
  have begins := beginsAt_of_normalize settled start.toSound start.midnight run
  obtain ⟨_, f, c, _, _, _, bounded⟩ := normalize_eq_ok_iff.1 run
  obtain ⟨passes, rfl, _⟩ := boundedPeriod_eq_ok_iff.1 bounded
  exact ⟨n, shown, count, within, stop_near_of_least shown.wholeStart shown.wholeStop passes, begins⟩

/-! ## What is told of a period -/

namespace ShownPeriod

variable {p : Period} (shown : cal.ShownPeriod p)
include shown

/-- The clock shows every instant of the period. -/
theorem shows {t : Instant} (le : p.start ≤ t) (before : t < p.stop) : cal.zone.Shows t :=
  settled.shows_between shown.start shown.stop (Moment.seconds_le le) (Moment.seconds_le (le_of_lt before))

theorem exists_bucketSequence (g : Granularity) :
    ∃ s, cal.bucketSequence g p = .ok s ∧ ∀ t ∈ s.starts, cal.zone.Shows t := by
  obtain ⟨starts, listed⟩ := exists_bucketStarts_settled (g := g) settled (fun _ => shown.start) shown.stop
  refine ⟨⟨g, p.timezone, starts⟩, bucketSequence_eq_ok_iff.2 ⟨starts, listed, rfl⟩, ?_⟩
  intro t member
  obtain ⟨le, before⟩ := (bucketStarts_eq_ok_iff.1 listed).within rfl t member
  exact shown.shows settled le before

omit settled shown in
theorem exists_label (g : Granularity) {t : Instant} (shows : cal.zone.Shows t) : ∃ text, cal.label g t = .ok text := by
  obtain ⟨l, run, _⟩ := Zone.toLocal_of_shows shows
  exact ⟨String.ofList (labelChars g l), by simp only [label, toLocal, run, bind, Except.bind, pure, Except.pure]⟩

omit settled shown in
/-- Buckets that the clock shows have labels. -/
theorem exists_labels {s : BucketSequence} (each : ∀ t ∈ s.starts, cal.zone.Shows t) :
    ∃ texts, cal.labels s = .ok texts :=
  exists_mapM fun t member => exists_label s.granularity (each t member)

theorem exists_inclusiveRange (g : Granularity) : ∃ range, cal.inclusiveRange g p = .ok range := by
  obtain ⟨b, run, seconds, whole, shows⟩ := exists_before settled shown.start shown.stop shown.wholeStop
    ((Moment.lt_iff_seconds shown.wholeStop).1 shown.order)
  unfold inclusiveRange
  cases byClock : g.unitSeconds? with
  | none =>
    have calendar : g.isCalendar = true := by rw [Granularity.isCalendar, byClock]; rfl
    have before : p.stop.plus (-1) = .ok b := Moment.plus_eq_ok_iff.2 run
    have latest : cal.zone.Shows (Moment.latest b p.start) := by
      unfold Moment.latest
      split
      · exact shown.start
      · exact shows
    obtain ⟨first, dateFirst, _⟩ := exists_dateOf shown.start
    obtain ⟨last, dateLast, _⟩ := exists_dateOf latest
    exact ⟨(first.text, last.text), by
      simp only [calendar, if_true, before, dateFirst, dateLast, bind, Except.bind, pure, Except.pure]⟩
  | some unit =>
    have clock : g.isCalendar = false := by rw [Granularity.isCalendar, byClock]; rfl
    have previous : cal.previous g p.stop = .ok (some (cal.clockFloor unit b)) := by
      simp only [previous, run, floor, byClock, bind, Except.bind, pure, Except.pure]
    have showsLast : cal.zone.Shows (((some (cal.clockFloor unit b)).filter (p.start ≤ ·)).getD p.start) := by
      by_cases within : p.start ≤ cal.clockFloor unit b
      · simp only [Option.filter, within, decide_true, if_true, Option.getD_some]
        exact shows_clockFloor settled (Granularity.clockUnit byClock) shows
      · simp only [Option.filter, within, decide_false, Bool.false_eq_true, if_false, Option.getD_none]
        exact shown.start
    obtain ⟨first, labelFirst⟩ := exists_label g shown.start
    obtain ⟨last, labelLast⟩ := exists_label g showsLast
    exact ⟨(first, last), by
      simp only [clock, Bool.false_eq_true, if_false, previous, clockText_eq_label cal clock, labelFirst, labelLast,
        bind, Except.bind, pure, Except.pure]⟩

end ShownPeriod

end Calendar

end BucketPlan
