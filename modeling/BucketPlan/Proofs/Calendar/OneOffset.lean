import BucketPlan.Proofs.Calendar.Marks
import BucketPlan.Proofs.Limits.Calendar
import BucketPlan.Zone.Table

/-!
A zone may keep one offset for ever (`Zone.Keeps`). Its clock then counts the seconds
everywhere, so what a calendar answers is known up to both ends of the representable years:
the local date of an instant (`dateOf_eq_ok_iff`), the first instant of a date
(`dayStart_eq_ok_iff`), and from an instant that opens a bucket on, the floors (`floor_opens`)
and the next boundaries (`next_opens`). Only what lies before the first opening has other
floors, since its bucket begins before the first second; away from the ends there are none of
these (`floor_inside_opens`, `next_inside_opens`).
-/

namespace BucketPlan

/-- The zone has one offset, at every instant and for every local time. -/
structure Zone.Keeps (z : Zone) (o : Offset) : Prop where
  offsetAt (t : Instant) : z.offsetAt t = o
  ofLocal (l : WallTime) : z.ofLocal l = o.instant l

theorem Zone.Keeps.clock {z : Zone} {o : Offset} (keeps : z.Keeps o) (t : Instant) :
    z.clock t = t.seconds + o.seconds := by rw [Zone.clock, keeps.offsetAt]

/-- A rule without a window keeps its standard offset. -/
theorem FixedRule.keeps {r : FixedRule} (steady : r.daylight = none) : r.zone.Keeps r.standard where
  offsetAt t := by simp only [zone, offsetAt, steady]
  ofLocal l := by
    cases run : r.standard.instant l with
    | error e =>
      simp only [Zone.ofLocal, Zone.offsetFor, zone, offsetsFor, admits, run, bind, Except.bind]
    | ok t =>
      simp only [Zone.ofLocal, Zone.offsetFor, zone, offsetsFor, admits, offsetAt, run, steady, decide_true, if_true,
        bind, Except.bind, pure, Except.pure]

/-- A table without changes keeps its first offset. -/
theorem ZoneTable.keeps {z : ZoneTable} (fixed : z.changes = []) : z.zone.Keeps z.base where
  offsetAt t := by simp only [zone, fixed, offsetAtSecond]
  ofLocal l := by
    simp only [Zone.ofLocal, Zone.offsetFor, zone, offsetsFor, fixed, offsetsForSecond, offsetsForSecond.reached,
      if_true, bind, Except.bind, pure, Except.pure]

namespace Calendar

variable {cal : Calendar} {g : Granularity} {a b t x : Instant} {d : Date} {i : Int}

/-- The clock shows the second with which bucket `i` begins. -/
structure Opens (cal : Calendar) (g : Granularity) (i : Int) (t : Instant) : Prop where
  whole : t.nanos = 0
  second : cal.zone.clock t = g.mark cal.weekStart i

/-- The number of the bucket that lies at an instant, by the second that the clock shows. -/
def bucketNumber (cal : Calendar) (g : Granularity) (t : Instant) : Int :=
  g.markIndex cal.weekStart (cal.zone.clock t)

/-- The instant has a local date, if buckets are cut by dates. -/
def Dated (cal : Calendar) (g : Granularity) (t : Instant) : Prop :=
  g.unitSeconds? = none → ∃ d, cal.dateOf t = .ok d

theorem bucketDate_day_of_week (cal : Calendar) (g : Granularity) (behind : firstDay + 6 ≤ d.day) :
    (cal.bucketDate g d).day = g.leadDay cal.weekStart (g.leadIndex cal.weekStart d.day) := by
  have within := (g.leadDay_leadIndex cal.weekStart d.day).2
  have length := (g.leadDay_succ_bounds cal.weekStart (g.leadIndex cal.weekStart d.day)).2
  cases g with
  | week =>
    have days : Granularity.week.longestDays = 7 := rfl
    rw [bucketDate_day_eq, if_pos (by omega)]
  | month => exact d.firstOfMonth_day
  | minute | hour | day => rfl

/-! ## Local dates -/

/-- Outside leap seconds the local date is that of the second which the clock shows. -/
theorem dateOf_eq_ok_iff (plain : ¬ t.InLeapSecond) : cal.dateOf t = .ok d ↔ d.day = cal.zone.clock t / 86400 := by
  have small : t.nanos < 1000000000 := Nat.lt_of_not_le plain
  simp only [dateOf, bind_eq_ok_iff, pure_eq_ok_iff]
  constructor
  · rintro ⟨l, shows, rfl⟩
    have seconds := ((Moment.addSeconds?_eq_some_iff small).1 (Moment.plus_eq_ok_iff.1 shows)).1
    rw [Zone.clock, ← seconds]
    rfl
  · intro day
    have low := d.first_le
    have high := d.le_last
    have clock : t.seconds + (cal.zone.offsetAt t).seconds = cal.zone.clock t := rfl
    obtain ⟨l, run⟩ := Moment.exists_addSeconds? (m := t) (d := (cal.zone.offsetAt t).seconds)
      (by rw [clock, firstSecond_eq]; omega) (by rw [clock, lastSecond_eq]; omega) fun leap => absurd leap plain
    have seconds := ((Moment.addSeconds?_eq_some_iff small).1 run).1
    refine ⟨l, Moment.plus_eq_ok_iff.2 run, Date.day_injective ?_⟩
    rw [day, Zone.clock, ← seconds]
    rfl

theorem dated_of_inside (inside : t.InsideBy 2) : cal.Dated g t := fun _ =>
  (exists_dateOf (cal.zone.shows_of_inside inside)).imp fun _ found => found.1

/-- Between two instants that have local dates all others have, too. -/
theorem Dated.between (datedA : cal.Dated g a) (datedB : cal.Dated g b) (plainA : ¬ a.InLeapSecond)
    (plainB : ¬ b.InLeapSecond) (plain : ¬ t.InLeapSecond) (low : cal.zone.clock a ≤ cal.zone.clock t)
    (high : cal.zone.clock t ≤ cal.zone.clock b) : cal.Dated g t := by
  intro byDate
  obtain ⟨d, dateA⟩ := datedA byDate
  obtain ⟨e, dateB⟩ := datedB byDate
  have dayA := (dateOf_eq_ok_iff plainA).1 dateA
  have dayB := (dateOf_eq_ok_iff plainB).1 dateB
  have first := d.first_le
  have last := e.le_last
  obtain ⟨n, _, day⟩ := Date.ofDay?_inside (n := cal.zone.clock t / 86400) (by omega) (by omega)
  exact ⟨n, (dateOf_eq_ok_iff plain).2 day⟩

section Keeps
variable {o : Offset} (keeps : cal.zone.Keeps o)
include keeps

theorem clock_le_clock (le : a ≤ b) : cal.zone.clock a ≤ cal.zone.clock b := by
  have seconds := Moment.seconds_le le
  rw [keeps.clock, keeps.clock]
  omega

theorem le_of_clock_le (whole : a.nanos = 0) (le : cal.zone.clock a ≤ cal.zone.clock b) : a ≤ b := by
  rw [keeps.clock, keeps.clock] at le
  rw [Moment.le_iff_seconds whole]
  omega

/-- No two instants open the same bucket. -/
theorem Opens.unique (opensA : cal.Opens g i a) (opensB : cal.Opens g i b) : a = b := by
  have same := opensA.second.trans opensB.second.symm
  rw [keeps.clock, keeps.clock] at same
  exact Moment.eq_of_seconds opensA.whole opensB.whole (by omega)

theorem exists_opens (low : firstSecond ≤ g.mark cal.weekStart i - o.seconds)
    (high : g.mark cal.weekStart i - o.seconds ≤ lastSecond) : ∃ t, cal.Opens g i t := by
  refine ⟨⟨g.mark cal.weekStart i - o.seconds, 0, low, high, by decide, by simp⟩, rfl, ?_⟩
  rw [keeps.clock]
  exact Int.sub_add_cancel _ _

theorem dayStart_eq_ok_iff : cal.dayStart d = .ok t ↔ t.nanos = 0 ∧ cal.zone.clock t = 86400 * d.day := by
  have midnight : (Moment.midnight d).seconds = 86400 * d.day := Int.mul_comm _ _
  rw [dayStart, Zone.startOfDay, keeps.ofLocal, Offset.instant, Moment.plus_eq_ok_iff,
    Moment.addSeconds?_eq_some_iff (m := .midnight d) (show 0 < 1000000000 by decide), midnight, keeps.clock]
  constructor
  · rintro ⟨seconds, nanos⟩
    exact ⟨nanos, by omega⟩
  · rintro ⟨nanos, clock⟩
    exact ⟨by omega, nanos⟩

theorem dated_of_dayStart (run : cal.dayStart d = .ok t) : cal.Dated g t := by
  obtain ⟨whole, clock⟩ := (dayStart_eq_ok_iff keeps).1 run
  exact fun _ => ⟨d, (dateOf_eq_ok_iff (Moment.plain_of_whole whole)).2 (by omega)⟩

/-! ## Floors -/

theorem clockFloor_keeps {unit : Nat} (positive : 0 < unit) (t : Instant) :
    (cal.clockFloor unit t).seconds =
      if firstSecond ≤ t.seconds - cal.zone.clock t % unit then t.seconds - cal.zone.clock t % unit else t.seconds :=
  clockFloor_of_kept positive fun e _ _ _ => by rw [keeps.offsetAt, keeps.offsetAt]

/-- From an instant that opens a bucket on, the floor opens the bucket that lies at an instant. -/
theorem floor_opens (opens : cal.Opens g i a) (datedA : cal.Dated g a) (le : a ≤ x) (plain : ¬ x.InLeapSecond)
    (datedX : cal.Dated g x) : ∃ f, cal.floor g x = .ok f ∧ cal.Opens g (cal.bucketNumber g x) f := by
  have reached : i ≤ cal.bucketNumber g x := by
    rw [bucketNumber, ← Granularity.mark_le_iff, ← opens.second]
    exact clock_le_clock keeps le
  -- The bucket opens between the two instants, so at a second that is representable.
  have since : cal.zone.clock a ≤ g.mark cal.weekStart (cal.bucketNumber g x) := by
    rw [opens.second]
    exact Granularity.mark_le_mark_iff.2 reached
  have upTo : g.mark cal.weekStart (cal.bucketNumber g x) ≤ cal.zone.clock x :=
    Granularity.mark_le_iff.2 (Int.le_refl _)
  have first := a.first_le
  have last := x.le_last
  have clockA := keeps.clock a
  have clockX := keeps.clock x
  cases units : g.unitSeconds? with
  | some unit =>
    have positive := (Granularity.clockUnit units).bounds.1
    have mark : g.mark cal.weekStart (cal.bucketNumber g x) = cal.zone.clock x - cal.zone.clock x % unit := by
      have parts := Int.mul_ediv_add_emod (cal.zone.clock x) unit
      simp only [Granularity.mark, bucketNumber, Granularity.markIndex, units]
      omega
    have seconds := clockFloor_keeps keeps positive x
    rw [if_pos (by omega)] at seconds
    refine ⟨cal.clockFloor unit x, by simp only [floor, units], clockFloor_nanos _ _ _, ?_⟩
    rw [keeps.clock]
    omega
  | none =>
    obtain ⟨e, dateA⟩ := datedA units
    obtain ⟨d, dateX⟩ := datedX units
    have dayA := (dateOf_eq_ok_iff (Moment.plain_of_whole opens.whole)).1 dateA
    have dayX := (dateOf_eq_ok_iff plain).1 dateX
    have firstE := e.first_le
    have mark : g.mark cal.weekStart (cal.bucketNumber g x) =
        86400 * g.leadDay cal.weekStart (g.leadIndex cal.weekStart d.day) := by
      simp only [Granularity.mark, bucketNumber, Granularity.markIndex, units, dayX]
    have day := cal.bucketDate_day_eq g d
    rw [if_pos (by omega)] at day
    obtain ⟨f, opensF⟩ := exists_opens (g := g) (i := cal.bucketNumber g x) keeps (by omega) (by omega)
    refine ⟨f, ?_, opensF⟩
    simp only [floor, units]
    exact bind_eq_ok_iff.2 ⟨d, dateX, (dayStart_eq_ok_iff keeps).2 ⟨opensF.whole, by rw [opensF.second, mark, day]⟩⟩

theorem opens_of_floor {f : Instant} (run : cal.floor g t = .ok f) (behind : firstSecond + 86400 * 7 ≤ f.seconds) :
    ∃ i, cal.Opens g i f := by
  have whole := floor_nanos run
  have clockF := keeps.clock f
  unfold floor at run
  cases units : g.unitSeconds? with
  | some unit =>
    simp only [units, Except.ok.injEq] at run
    have bounds := (Granularity.clockUnit units).bounds
    have clockT := keeps.clock t
    have parts := Int.mul_ediv_add_emod (cal.zone.clock t) unit
    have beyond := Int.emod_lt_of_pos (cal.zone.clock t) (b := unit) (by omega)
    have seconds := clockFloor_keeps keeps bounds.1 t
    rw [run] at seconds
    refine ⟨cal.zone.clock t / unit, whole, ?_⟩
    simp only [Granularity.mark, units]
    split at seconds
    · omega
    · omega
  | none =>
    simp only [units] at run
    obtain ⟨d, date, dawns⟩ := bind_eq_ok_iff.1 run
    have clock := ((dayStart_eq_ok_iff keeps).1 dawns).2
    have back := (cal.bucketDate_near g d).2
    have lower := o.lower
    rw [firstSecond_eq] at behind
    have day := cal.bucketDate_day_of_week g (d := d) (by omega)
    refine ⟨g.leadIndex cal.weekStart d.day, whole, ?_⟩
    simp only [Granularity.mark, units]
    rw [clock, day]

/-! ## Next boundaries -/

/-- From the opening of a bucket the calendar leads to that of the next one, if there is an
    instant in or behind this. -/
theorem next_opens (opens : cal.Opens g i t) (datedT : cal.Dated g t) (plain : ¬ x.InLeapSecond)
    (datedX : cal.Dated g x) (behind : g.mark cal.weekStart (i + 1) ≤ cal.zone.clock x) :
    ∃ n, cal.next g t = .ok (some n) ∧ cal.Opens g (i + 1) n ∧ t < n ∧ n ≤ x := by
  have longer := (Granularity.mark_succ_bounds g cal.weekStart i).1
  have clockT := keeps.clock t
  have clockX := keeps.clock x
  have second := opens.second
  have first := t.first_le
  have last := x.le_last
  obtain ⟨n, opensN⟩ := exists_opens (g := g) (i := i + 1) keeps (by omega) (by omega)
  have clockN := keeps.clock n
  have secondN := opensN.second
  have later : t < n := by
    rw [Moment.lt_iff_seconds opensN.whole]
    omega
  refine ⟨n, ?_, opensN, later, le_of_clock_le keeps opensN.whole (by omega)⟩
  have plainT := Moment.plain_of_whole opens.whole
  cases units : g.unitSeconds? with
  | some unit =>
    have step : g.mark cal.weekStart (i + 1) = g.mark cal.weekStart i + unit := by
      simp only [Granularity.mark, units]
      rw [Int.mul_add, Int.mul_one]
    have ahead : t.addSeconds? (unit * 1 : Nat) = some n :=
      (Moment.addSeconds?_eq_some_iff (Nat.lt_of_not_le plainT)).2 ⟨by omega, opensN.whole.trans opens.whole.symm⟩
    have still : cal.clockFloor unit n = n := by
      apply clockFloor_of_onUnit opensN.whole
      rw [secondN]
      simp only [Granularity.mark, units]
      exact Int.mul_emod_right _ _
    simp only [next, units, clockNext?, ahead, still, later, if_true]
  | none =>
    obtain ⟨d, date⟩ := datedT units
    obtain ⟨e, dateX⟩ := datedX units
    have day := (dateOf_eq_ok_iff plainT).1 date
    have dayX := (dateOf_eq_ok_iff plain).1 dateX
    have mark : ∀ j, g.mark cal.weekStart j = 86400 * g.leadDay cal.weekStart j := by
      intro j
      simp only [Granularity.mark, units]
    rw [mark] at second secondN behind
    rw [mark, mark] at longer
    have lead : d.day = g.leadDay cal.weekStart i := by omega
    have firstD := d.first_le
    have lastE := e.le_last
    obtain ⟨m, _, dayM⟩ := Date.ofDay?_inside (n := g.leadDay cal.weekStart (i + 1)) (by omega) (by omega)
    have found : nextDate? g d = some m := by
      rw [nextDate?_eq_some_iff, dayM, lead, Granularity.followingDay_leadDay]
    have dawns : cal.dayStart m = .ok n := (dayStart_eq_ok_iff keeps).2 ⟨opensN.whole, by rw [secondN, dayM]⟩
    simp only [next, units, date, found, dawns, bind, Except.bind, pure, Except.pure]

/-! ## Away from the ends -/

/-- Away from the ends every floor opens a bucket. -/
theorem floor_inside_opens (inside : x.InsideBy 40) (plain : ¬ x.InLeapSecond) :
    ∃ f, cal.floor g x = .ok f ∧ cal.Opens g (cal.bucketNumber g x) f := by
  have low : g.mark cal.weekStart (cal.bucketNumber g x) ≤ cal.zone.clock x :=
    Granularity.mark_le_iff.2 (Int.le_refl _)
  have high : cal.zone.clock x < g.mark cal.weekStart (cal.bucketNumber g x + 1) := by
    rw [← Int.not_le, Granularity.mark_le_iff]
    exact Int.not_le.2 (Int.lt_succ _)
  have length := (Granularity.mark_succ_bounds g cal.weekStart (cal.bucketNumber g x)).2
  have usual := g.usualSeconds_bounds.2
  have bounds := Moment.insideBy_def.1 inside
  have clockX := keeps.clock x
  obtain ⟨a, opens⟩ := exists_opens (g := g) (i := cal.bucketNumber g x) keeps
    (by unfold firstSecond; omega) (by unfold lastSecond; omega)
  have clockA := keeps.clock a
  have second := opens.second
  have insideA : a.InsideBy 2 := by
    rw [Moment.insideBy_def]
    omega
  exact floor_opens keeps opens (dated_of_inside insideA) (le_of_clock_le keeps opens.whole (by omega)) plain
    (dated_of_inside (inside.mono 2 (by decide)))

/-- Away from the ends the opening of a bucket has a next one. -/
theorem next_inside_opens (inside : t.InsideBy 40) (opens : cal.Opens g i t) :
    ∃ n, cal.next g t = .ok (some n) ∧ cal.Opens g (i + 1) n := by
  have length := Granularity.mark_succ_bounds g cal.weekStart i
  have usual := g.usualSeconds_bounds.2
  have bounds := Moment.insideBy_def.1 inside
  have clockT := keeps.clock t
  have second := opens.second
  obtain ⟨x, opensX⟩ := exists_opens (g := g) (i := i + 1) keeps
    (by unfold firstSecond; omega) (by unfold lastSecond; omega)
  have clockX := keeps.clock x
  have secondX := opensX.second
  have insideX : x.InsideBy 2 := by
    rw [Moment.insideBy_def]
    omega
  obtain ⟨n, next, opensN, _⟩ := next_opens keeps opens (dated_of_inside (inside.mono 2 (by decide)))
    (Moment.plain_of_whole opensX.whole) (dated_of_inside insideX) (by omega)
  exact ⟨n, next, opensN⟩

end Keeps

end Calendar

end BucketPlan
