import BucketPlan.Proofs.Calendar.ClockOverrun
import BucketPlan.Proofs.Period.Normalized

/-!
A normalized period is meant to cover its selection. It falls short of it in three
ways, all of them at a switch: the midnight at which the bucket of the first instant
opens was skipped, and is read as later than the instant; the midnight at which the
bucket of the last instant closes is repeated, and is read as its first occurrence,
which the instant is past; a floor by the clock has passed over a whole unit, which
becomes the end although the instant is past it. Apart from these the period covers
the selection (`normalize_covers_iff`).
-/

namespace BucketPlan

namespace FixedRule

/-- The midnight with which the bucket of an instant opens, as a place of the wall clock. -/
def openingMidnight (r : FixedRule) (g : Granularity) (weekStart : Weekday) (t : Instant) : Int :=
  172800000000000 * g.leadDay weekStart (r.bucketAt g weekStart t.place)

/-- The midnight with which the bucket of an instant closes, as a place of the wall
    clock: one bucket after the day on which the bucket opens. -/
def closingMidnight (r : FixedRule) (g : Granularity) (weekStart : Weekday) (t : Instant) : Int :=
  172800000000000 * g.followingDay (r.dayAt (r.resolved (r.openingMidnight g weekStart t)))

/-- A switch before the instant has skipped the midnight that opens its bucket, and by
    the clock from before the switch the instant would be before that midnight. -/
def LosesStart (r : FixedRule) (g : Granularity) (weekStart : Weekday) (t : Instant) : Prop :=
  match g.unitSeconds? with
  | some _ => False
  | none => ∃ s ∈ r.switches, s.Skips (r.openingMidnight g weekStart t) ∧ s.instant ≤ t ∧
      t.place < r.openingMidnight g weekStart t - 2000000000 * s.before.seconds

/-- A switch before the instant repeats the midnight that closes its bucket, and the
    instant is before its second occurrence; or, for buckets cut by the clock, the floor
    of the instant passes over a whole unit from before the switch. -/
def LosesStop (r : FixedRule) (g : Granularity) (weekStart : Weekday) (t : Instant) : Prop :=
  match g.unitSeconds? with
  | some unit => ∃ s ∈ r.switches, s.PassesOver unit t.seconds
  | none => ∃ s ∈ r.switches, s.Repeats (r.closingMidnight g weekStart t) ∧ s.instant ≤ t ∧
      t.place < r.closingMidnight g weekStart t - 2000000000 * s.after.seconds

variable {r : FixedRule} {g : Granularity} (lasting : r.Lasting) (weekStart : Weekday)

/-! ## Buckets cut by the calendar -/

theorem openingMidnight_le (r : FixedRule) (g : Granularity) (weekStart : Weekday) (t : Instant) :
    r.openingMidnight g weekStart t ≤ r.shown t.place := by
  rw [openingMidnight, ← le_dayAt_iff]
  exact (Granularity.leadDay_leadIndex g weekStart (r.dayAt t.place)).1

include lasting in
theorem lt_closingMidnight (g : Granularity) (t : Instant) :
    r.shown t.place < r.closingMidnight g weekStart t := by
  have opens : g.leadDay weekStart (r.bucketAt g weekStart t.place) ≤
      r.dayAt (r.resolved (r.openingMidnight g weekStart t)) := by
    rw [le_dayAt_iff]
    exact le_shown_resolved lasting _
  have later := Granularity.followingDay_le (g := g) opens
  rw [Granularity.followingDay_leadDay] at later
  have within := (Granularity.leadDay_leadIndex g weekStart (r.dayAt t.place)).2
  have day : ¬ r.dayAt t.place + 1 ≤ r.dayAt t.place := by omega
  rw [le_dayAt_iff] at day
  unfold closingMidnight
  unfold bucketAt at later
  omega

section ByDate
variable (byDate : g.unitSeconds? = none)
include byDate lasting

theorem floor_le_iff_byDate {t : Instant} (inside : t.InsideBy 80) (plain : ¬ t.InLeapSecond) :
    ∃ f, (r.calendar weekStart).floor g t = .ok f ∧ (f ≤ t ↔ ¬ r.LosesStart g weekStart t) := by
  obtain ⟨f, i, run, place, exact⟩ := floor_calendar r weekStart byDate (inside.mono 40 (by decide))
  have opens : f.place = r.resolved (r.openingMidnight g weekStart t) := by rw [place, exact plain]; rfl
  refine ⟨f, run, ?_⟩
  simp only [LosesStart, byDate, Moment.le_iff_place]
  rw [← lt_resolved_iff lasting (openingMidnight_le r g weekStart t), opens, Int.not_lt]

theorem le_ceil_iff_byDate {t : Instant} (inside : t.InsideBy 80) (plain : ¬ t.InLeapSecond) :
    ∃ c, (r.calendar weekStart).ceil g t = .ok c ∧ (t ≤ c ↔ ¬ r.LosesStop g weekStart t) := by
  obtain ⟨f, i, run, place, exact⟩ := floor_calendar r weekStart byDate (inside.mono 40 (by decide))
  have opens : f.place = r.resolved (r.openingMidnight g weekStart t) := by rw [place, exact plain]; rfl
  obtain ⟨n, next, _, closes⟩ := next_calendar r weekStart byDate (Calendar.floor_inside run inside 40 (by decide))
    (Moment.plain_of_whole (Calendar.floor_nanos run))
  have reading : n.place = r.resolved (r.closingMidnight g weekStart t) := by rw [closes, opens]; rfl
  have ahead := lt_closingMidnight lasting weekStart g t
  refine ⟨_, Calendar.ceil_of_floor run next, ?_⟩
  simp only [LosesStop, byDate, Moment.le_iff_place]
  by_cases same : f = t
  · rw [if_pos same]
    constructor
    · -- The opening midnight is read as before a switch that repeats a later one.
      rintro _ ⟨s, member, repeats, since, _⟩
      have reached := openingMidnight_le r g weekStart t
      have order : r.openingMidnight g weekStart t ≤ r.closingMidnight g weekStart t := by omega
      have before := resolved_lt_of_repeats lasting order member repeats
      rw [← opens, same] at before
      omega
    · intro _
      rw [same]
  · rw [if_neg same, reading, ← resolved_le_iff lasting ahead]
    -- The closing midnight is not read as the instant itself, where the clock shows less.
    have shows := le_shown_resolved lasting (r.closingMidnight g weekStart t)
    constructor
    · intro le back
      rw [Int.le_antisymm back le] at shows
      omega
    · intro later
      omega

end ByDate

/-! ## Buckets cut by the clock -/

section ByClock
variable {unit : Nat} (byClock : g.unitSeconds? = some unit)
include byClock

theorem floor_le_byClock {t : Instant} (inside : t.InsideBy 80) :
    ∃ f, (r.calendar weekStart).floor g t = .ok f ∧ f ≤ t := by
  obtain ⟨f, run, seconds, nanos⟩ := floor_clock (r := r) weekStart byClock (inside.mono 1 (by decide))
  have bounds := unitFloor_bounds (r := r) (Granularity.clockUnit byClock) t.seconds
  refine ⟨f, run, ?_⟩
  rw [Moment.le_iff_seconds nanos]
  omega

include lasting

theorem le_ceil_iff_byClock {t : Instant} (inside : t.InsideBy 80) :
    ∃ c, (r.calendar weekStart).ceil g t = .ok c ∧ (t ≤ c ↔ ¬ r.LosesStop g weekStart t) := by
  have isUnit := Granularity.clockUnit byClock
  obtain ⟨f, run, seconds, nanos⟩ := floor_clock (r := r) weekStart byClock (inside.mono 1 (by decide))
  obtain ⟨n, next, following, _⟩ :=
    next_clock (r := r) weekStart byClock (Calendar.floor_inside run inside 2 (by decide)) nanos
  rw [seconds] at following
  have lost : r.LosesStop g weekStart t ↔ n.seconds ≤ t.seconds := by
    simp only [LosesStop, byClock]
    rw [following, unitNext_unitFloor_le_iff isUnit lasting, passed_over_iff isUnit lasting]
  obtain ⟨on, later, _⟩ := unitNext_spec (r := r) isUnit f.seconds
  rw [seconds, ← following] at on later
  refine ⟨_, Calendar.ceil_of_floor run next, ?_⟩
  rw [lost]
  by_cases same : f = t
  · rw [if_pos same, ← same]
    constructor
    · intro _ back
      omega
    · intro _
      exact le_refl f
  · rw [if_neg same]
    constructor
    · intro le back
      -- The instant would be in the second of a boundary, and that second its floor.
      have tight : n.seconds = t.seconds := by
        rw [Moment.le_def, Moment.lt_def] at le
        omega
      rw [tight] at on
      rw [unitFloor_of_onUnit on] at later
      omega
    · intro apart
      rw [Moment.le_def, Moment.lt_def]
      omega

end ByClock

/-! ## Every granularity -/

section Selection
include lasting

theorem floor_le_iff {t : Instant} (inside : t.InsideBy 80) (plain : ¬ t.InLeapSecond) :
    ∃ f, (r.calendar weekStart).floor g t = .ok f ∧ (f ≤ t ↔ ¬ r.LosesStart g weekStart t) := by
  cases units : g.unitSeconds? with
  | none => exact floor_le_iff_byDate lasting weekStart units inside plain
  | some unit =>
    obtain ⟨f, run, le⟩ := floor_le_byClock (r := r) weekStart units inside
    refine ⟨f, run, ?_⟩
    simp only [LosesStart, units, not_false_eq_true, iff_true]
    exact le

theorem le_ceil_iff {t : Instant} (inside : t.InsideBy 80) (plain : ¬ t.InLeapSecond) :
    ∃ c, (r.calendar weekStart).ceil g t = .ok c ∧ (t ≤ c ↔ ¬ r.LosesStop g weekStart t) := by
  cases units : g.unitSeconds? with
  | none => exact le_ceil_iff_byDate lasting weekStart units inside plain
  | some unit => exact le_ceil_iff_byClock lasting weekStart units inside

/-- A normalized period covers its selection unless a switch loses an end of it. -/
theorem normalize_covers_iff {rawStart rawStop : Instant} (plainStart : ¬ rawStart.InLeapSecond)
    (plainStop : ¬ rawStop.InLeapSecond) (insideStart : rawStart.InsideBy Moment.quarterCentury)
    (insideStop : rawStop.InsideBy Moment.quarterCentury) {p : Period}
    (normalized : (r.calendar weekStart).normalize g rawStart rawStop = .ok p) :
    p.start ≤ rawStart ∧ rawStop ≤ p.stop ↔
      ¬ r.LosesStart g weekStart rawStart ∧ ¬ r.LosesStop g weekStart rawStop := by
  obtain ⟨_, start, stop, floor, ceil, _, bounded⟩ := Calendar.normalize_eq_ok_iff.1 normalized
  obtain ⟨_, rfl, _⟩ := Calendar.boundedPeriod_eq_ok_iff.1 bounded
  obtain ⟨f, isFloor, low⟩ := floor_le_iff lasting weekStart (insideStart.mono 80 (by decide)) plainStart
  obtain ⟨c, isCeil, high⟩ := le_ceil_iff lasting weekStart (insideStop.mono 80 (by decide)) plainStop
  rw [isFloor] at floor
  rw [isCeil] at ceil
  cases floor
  cases ceil
  rw [← low, ← high]

end Selection

/-! ## A selection that is not covered -/

/-- The clock of St John's in 2024: an hour ahead from 10 March to 3 November, when it
    goes back at one minute past midnight. -/
def stJohns2024 : FixedRule where
  id := "America/St_Johns"
  standard := ⟨-12600, by decide, by decide⟩
  daylight := some {
    offset := ⟨-9000, by decide, by decide⟩
    start := (Moment.ofSeconds? 1710041460).get (by decide)
    stop := (Moment.ofSeconds? 1730601060).get (by decide) }

theorem lasting_stJohns2024 : stJohns2024.Lasting := by
  intro w window
  cases window
  decide

/-- Half past nine in the morning of 2 November in St John's. -/
def morningBefore : Instant := (Moment.ofSeconds? 1730548800).get (by decide)

/-- Half past eleven in the evening of 2 November in St John's, after the clock has
    gone back. -/
def eveningAfter : Instant := (Moment.ofSeconds? 1730602800).get (by decide)

/-- 2 November in St John's up to its first midnight. -/
def cutDay : Period where
  start := (Moment.ofSeconds? 1730514600).get (by decide)
  stop := (Moment.ofSeconds? 1730601000).get (by decide)
  timezone := "America/St_Johns"

theorem normalize_cutDay :
    (stJohns2024.calendar .monday).normalize .day morningBefore eveningAfter = .ok cutDay := by decide +kernel

theorem stJohns2024_covers_iff :
    cutDay.start ≤ morningBefore ∧ eveningAfter ≤ cutDay.stop ↔
      ¬ stJohns2024.LosesStart .day .monday morningBefore ∧ ¬ stJohns2024.LosesStop .day .monday eveningAfter :=
  normalize_covers_iff lasting_stJohns2024 .monday (by decide) (by decide) (by decide) (by decide) normalize_cutDay

/-- The selection is of a day that ends with the second midnight, but its period ends
    with the first one, half an hour before the selection does. -/
theorem stJohns2024_uncovered :
    stJohns2024.Lasting ∧ morningBefore ≤ eveningAfter ∧ ¬ morningBefore.InLeapSecond ∧
      ¬ eveningAfter.InLeapSecond ∧ morningBefore.InsideBy Moment.quarterCentury ∧
      eveningAfter.InsideBy Moment.quarterCentury ∧
      (stJohns2024.calendar .monday).normalize .day morningBefore eveningAfter = .ok cutDay ∧
      ¬ (cutDay.start ≤ morningBefore ∧ eveningAfter ≤ cutDay.stop) := by
  refine ⟨lasting_stJohns2024, by decide, by decide, by decide, by decide, by decide, normalize_cutDay, ?_⟩
  rintro ⟨_, covers⟩
  exact absurd covers (by decide)

end FixedRule

end BucketPlan
