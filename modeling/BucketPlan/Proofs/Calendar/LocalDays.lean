import BucketPlan.Proofs.Calendar.Boundaries
import BucketPlan.Proofs.Calendar.Leading
import BucketPlan.Proofs.Zone.LocalTime

/-!
Over the zone of a rule, local day `d` dawns at the place `dawn d`, and the clock at
a place shows day `dayAt`. So bucket `i` opens at `opening i`, and a place lies in
bucket `bucketAt`: the floor of an instant is the opening of its bucket
(`floor_calendar`), and the next boundary is the dawn of the day one bucket later
(`next_calendar`). With offsets less than a day apart a bucket opens within itself
(`bucketAt_opening`).
-/

namespace BucketPlan

namespace FixedRule

/-- The calendar of a rule's zone. -/
def calendar (r : FixedRule) (weekStart : Weekday) : Calendar := ⟨r.zone, weekStart⟩

/-- The place at which local day `d` begins. -/
def dawn (r : FixedRule) (d : Int) : Int := r.resolved (172800000000000 * d)

/-- The local day at a place. -/
def dayAt (r : FixedRule) (n : Int) : Int := r.shown n / 172800000000000

/-- The place at which bucket `i` of a granularity begins. -/
def opening (r : FixedRule) (g : Granularity) (weekStart : Weekday) (i : Int) : Int :=
  r.dawn (g.leadDay weekStart i)

/-- The number of the bucket at a place. -/
def bucketAt (r : FixedRule) (g : Granularity) (weekStart : Weekday) (n : Int) : Int :=
  g.leadIndex weekStart (r.dayAt n)

theorem dawn_bounds (r : FixedRule) (d : Int) :
    172800000000000 * (d - 1) < r.dawn d ∧ r.dawn d < 172800000000000 * (d + 1) := by
  have bounds := r.offsetOn_bounds (172800000000000 * d)
  unfold dawn resolved
  omega

theorem le_dayAt_iff {r : FixedRule} {d n : Int} : d ≤ r.dayAt n ↔ 172800000000000 * d ≤ r.shown n := by
  unfold dayAt
  omega

/-- A day dawns on that day. -/
theorem dayAt_dawn {r : FixedRule} (lasting : r.Lasting) (narrow : r.Narrow) (d : Int) :
    r.dayAt (r.dawn d) = d := by
  have low := le_shown_resolved lasting (172800000000000 * d)
  have high := shown_resolved_lt lasting narrow (172800000000000 * d)
  unfold dayAt dawn
  omega

/-- A bucket opens within itself. -/
theorem bucketAt_opening {r : FixedRule} (lasting : r.Lasting) (narrow : r.Narrow) (g : Granularity)
    (weekStart : Weekday) (i : Int) : r.bucketAt g weekStart (r.opening g weekStart i) = i := by
  rw [bucketAt, opening, dayAt_dawn lasting narrow, Granularity.leadIndex_leadDay]

/-! ## Dates and their first instants -/

theorem midnight_place (d : Date) : (Moment.midnight d).place = 172800000000000 * d.day := by
  simp only [Moment.place, Moment.midnight]
  omega

variable (r : FixedRule) (weekStart : Weekday)

/-- An instant has a local date, and outside leap seconds it is the day that the clock
    shows. -/
theorem dateOf_spec {t : Instant} (inside : t.InsideBy 1) :
    ∃ d, (r.calendar weekStart).dateOf t = .ok d ∧ (¬ t.InLeapSecond → d.day = r.dayAt t.place) := by
  obtain ⟨l, run, exact⟩ := toLocal_spec r inside
  refine ⟨l.date, ?_, ?_⟩
  · simp only [Calendar.dateOf, Calendar.toLocal, calendar, run, bind, Except.bind, pure, Except.pure]
  · intro plain
    obtain ⟨place, nanos⟩ := exact plain
    have few : l.nanos < 1000000000 := by unfold Moment.InLeapSecond at plain; omega
    rw [dayAt, ← place, Moment.place]
    simp only [Moment.date]
    omega

theorem dayStart_spec {d : Date} (low : firstDay + 3 ≤ d.day) (high : d.day + 3 ≤ lastDay) :
    ∃ t, (r.calendar weekStart).dayStart d = .ok t ∧ t.place = r.dawn d.day ∧ t.nanos = 0 := by
  have inside : (Moment.midnight d).InsideBy 2 := by
    unfold firstDay at low
    unfold lastDay at high
    rw [Moment.insideBy_def]
    simp only [Moment.midnight]
    omega
  obtain ⟨t, run, place, nanos⟩ := ofLocal_spec r inside (Moment.plain_of_whole rfl)
  refine ⟨t, run, ?_, nanos⟩
  rw [place, midnight_place, dawn]

/-! ## Floor and next boundary -/

variable {g : Granularity} (byDate : g.unitSeconds? = none)
include byDate

/-- The floor of any instant is the opening of a bucket; outside leap seconds, of the
    bucket that the instant lies in. -/
theorem floor_calendar {t : Instant} (inside : t.InsideBy 40) :
    ∃ f i, (r.calendar weekStart).floor g t = .ok f ∧ f.place = r.opening g weekStart i ∧
      (¬ t.InLeapSecond → i = r.bucketAt g weekStart t.place) := by
  obtain ⟨d, date, exact⟩ := dateOf_spec r weekStart (inside.mono 1 (by decide))
  rw [Moment.insideBy_def] at inside
  have near := Calendar.dateOf_near date
  have first : firstDay = -96465292 := rfl
  have last : lastDay = 95026236 := rfl
  have back := (r.calendar weekStart).bucketDate_near g d
  have lead := (r.calendar weekStart).bucketDate_day g (d := d) (by omega)
  obtain ⟨f, run, place, nanos⟩ := dayStart_spec r weekStart (d := (r.calendar weekStart).bucketDate g d)
    (by omega) (by omega)
  rw [lead] at place
  refine ⟨f, g.leadIndex weekStart d.day, ?_, place, ?_⟩
  · simp only [Calendar.floor, byDate, date, bind, Except.bind]
    exact run
  · intro plain
    rw [bucketAt, exact plain]

/-- The next boundary is the dawn of the day one bucket later. -/
theorem next_calendar {t : Instant} (inside : t.InsideBy 40) (plain : ¬ t.InLeapSecond) :
    ∃ n, (r.calendar weekStart).next g t = .ok (some n) ∧ n.nanos = 0 ∧
      n.place = r.dawn (g.followingDay (r.dayAt t.place)) := by
  obtain ⟨d, date, exact⟩ := dateOf_spec r weekStart (inside.mono 1 (by decide))
  rw [Moment.insideBy_def] at inside
  have near := Calendar.dateOf_near date
  have first : firstDay = -96465292 := rfl
  have last : lastDay = 95026236 := rfl
  have bounds := g.followingDay_bounds d.day
  have longest := g.longestDays_le
  obtain ⟨after, found, day⟩ := Calendar.nextDate?_day g (d := d) (by omega)
  obtain ⟨n, run, place, nanos⟩ := dayStart_spec r weekStart (d := after) (by omega) (by omega)
  refine ⟨n, ?_, nanos, ?_⟩
  · simp only [Calendar.next, byDate, date, found, run, bind, Except.bind, pure, Except.pure]
  · rw [place, day, exact plain]

end FixedRule

end BucketPlan
