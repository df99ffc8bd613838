import BucketPlan.Bucket.Cursor
import BucketPlan.Proofs.Calendar.Leading
import BucketPlan.Proofs.Moment.Line
import BucketPlan.Proofs.Runs

namespace BucketPlan

/-- The lengths in seconds of the buckets that are cut by the clock. -/
def ClockUnit (unit : Nat) : Prop := unit = 60 ∨ unit = 3600

theorem ClockUnit.bounds {unit : Nat} (isUnit : ClockUnit unit) : 0 < unit ∧ unit ≤ 3600 := by
  rcases isUnit with rfl | rfl <;> decide

theorem ClockUnit.le {unit : Nat} (isUnit : ClockUnit unit) : (unit : Int) ≤ 3600 := by
  rcases isUnit with rfl | rfl <;> decide

theorem Granularity.clockUnit {g : Granularity} {unit : Nat} (byClock : g.unitSeconds? = some unit) :
    ClockUnit unit := by
  cases g with
  | minute => exact .inl (Option.some.inj byClock).symm
  | hour => exact .inr (Option.some.inj byClock).symm
  | day | week | month => exact absurd byClock (by simp [unitSeconds?])

/-! ## Dates of buckets -/

namespace Date

theorem addDays?_getD_near (d : Date) (n : Int) (back : n ≤ 0) :
    d.day + n ≤ ((d.addDays? n).getD d).day ∧ ((d.addDays? n).getD d).day ≤ d.day := by
  cases found : d.addDays? n with
  | none => simp only [Option.getD_none]; omega
  | some b =>
    have day := ofDay?_eq_some_iff.1 found
    simp only [Option.getD_some]
    omega

theorem firstOfMonth_near (d : Date) : d.day - 30 ≤ d.firstOfMonth.day ∧ d.firstOfMonth.day ≤ d.day := by
  have valid := Civil.ofDay_valid d.day
  have length := (daysInMonth_bounds (Civil.ofDay d.day).year (Civil.ofDay d.day).month).2
  have first := valid.2.2
  have near := d.addDays?_getD_near (1 - d.civil.day) (by unfold civil; omega)
  unfold firstOfMonth civil at *
  omega

end Date

namespace Calendar

/-- The first date of a date's bucket is at most 30 days before. -/
theorem bucketDate_near (cal : Calendar) (g : Granularity) (d : Date) :
    d.day - 30 ≤ (cal.bucketDate g d).day ∧ (cal.bucketDate g d).day ≤ d.day := by
  cases g with
  | week =>
    have few := d.weekday.daysSince_lt cal.weekStart
    have near := d.addDays?_getD_near (-(d.weekday.daysSince cal.weekStart)) (by omega)
    simp only [bucketDate, Date.firstOfWeek]
    omega
  | month => exact d.firstOfMonth_near
  | minute | hour | day => simp only [bucketDate]; omega

/-! ## Floors -/

theorem alignDown_near (zone : Zone) {unit : Nat} (positive : 0 < unit) (passes : Nat) (t : Instant) :
    t.seconds - unit * passes ≤ (alignDown zone unit passes t).seconds ∧
      (alignDown zone unit passes t).seconds ≤ t.seconds := by
  induction passes generalizing t with
  | zero => simp [alignDown]
  | succ passes ih =>
    have step : (unit : Int) * (passes + 1 : Nat) = unit * passes + unit := by
      rw [Int.natCast_succ, Int.mul_add, Int.mul_one]
    have room : 0 ≤ (unit : Int) * passes := Int.mul_nonneg (Int.natCast_nonneg _) (Int.natCast_nonneg _)
    unfold alignDown
    simp only
    split
    · omega
    · split
      · next earlier found =>
        have low := Int.emod_nonneg (t.seconds + (zone.offsetAt t).seconds) (b := unit) (by omega)
        have high := Int.emod_lt_of_pos (t.seconds + (zone.offsetAt t).seconds) (b := unit) (by omega)
        have seconds := (Moment.ofSeconds?_eq_some_iff.1 found).1
        have rest := ih earlier
        omega
      · omega

theorem dateOf_near {cal : Calendar} {t : Instant} {d : Date} (run : cal.dateOf t = .ok d) :
    t.seconds - 86400 * 2 < 86400 * d.day ∧ 86400 * d.day ≤ t.seconds + 86400 := by
  simp only [dateOf, bind_eq_ok_iff, pure_eq_ok_iff] at run
  obtain ⟨l, shows, rfl⟩ := run
  have near := Moment.addSeconds?_near (Moment.plus_eq_ok_iff.1 shows)
  have low := (cal.zone.offsetAt t).lower
  have high := (cal.zone.offsetAt t).upper
  simp only [Moment.date]
  omega

theorem dayStart_near {cal : Calendar} {d : Date} {t : Instant} (run : cal.dayStart d = .ok t) :
    86400 * (d.day - 1) < t.seconds ∧ t.seconds < 86400 * (d.day + 1) + 1 := by
  simp only [dayStart, Zone.startOfDay, Zone.ofLocal, bind_eq_ok_iff] at run
  obtain ⟨o, _, run⟩ := run
  have near := Moment.addSeconds?_near (Moment.plus_eq_ok_iff.1 run)
  have low := o.lower
  have high := o.upper
  simp only [Moment.midnight] at near
  omega

variable {cal : Calendar} {g : Granularity}

/-- Floors are whole seconds, whatever the zone. -/
theorem floor_nanos {t f : Instant} (run : cal.floor g t = .ok f) : f.nanos = 0 := by
  unfold floor at run
  split at run
  · cases run
    exact clockFloor_nanos _ _ _
  · obtain ⟨d, _, run⟩ := bind_eq_ok_iff.1 run
    exact dayStart_nanos run

/-- Floors are near, whatever the zone. -/
theorem floor_near {t f : Instant} (run : cal.floor g t = .ok f) :
    t.seconds - 86400 * 35 < f.seconds ∧ f.seconds ≤ t.seconds + 86400 * 2 := by
  unfold floor at run
  split at run
  · next unit byClock =>
    cases run
    have isUnit := (Granularity.clockUnit byClock).bounds
    have near := alignDown_near cal.zone isUnit.1 4 t.truncate
    have same : t.truncate.seconds = t.seconds := rfl
    unfold clockFloor
    omega
  · obtain ⟨d, date, run⟩ := bind_eq_ok_iff.1 run
    have first := dateOf_near date
    have second := cal.bucketDate_near g d
    have third := dayStart_near run
    omega

/-- The floor of an instant away from the ends is away from them too. -/
theorem floor_inside {t f : Instant} (run : cal.floor g t = .ok f) {days : Int} (inside : t.InsideBy days)
    (fewer : Int) (less : fewer + 35 ≤ days) : f.InsideBy fewer := by
  have near := floor_near run
  rw [Moment.insideBy_def] at *
  omega

/-! ## Next boundaries -/

/-- The date one bucket later is later, and not far. -/
theorem nextDate?_near {d n : Date} (found : nextDate? g d = some n) : d.day < n.day ∧ n.day ≤ d.day + 31 := by
  have bounds := g.followingDay_bounds d.day
  have longest := g.longestDays_le
  rw [nextDate?_eq_some_iff.1 found]
  omega

theorem clockNext?_near {unit : Nat} (positive : 0 < unit) {t n : Instant} {tries : List Nat} {most : Nat}
    (few : ∀ units ∈ tries, units ≤ most) (run : cal.clockNext? unit t tries = some n) :
    n.seconds ≤ t.seconds + unit * most + 1 := by
  induction tries with
  | nil => cases run
  | cons units more ih =>
    unfold clockNext? at run
    split at run
    · cases run
    · next ahead moved =>
      split at run
      · cases run
        have near := (alignDown_near cal.zone positive 4 ahead.truncate).2
        have same : ahead.truncate.seconds = ahead.seconds := rfl
        have reached := (Moment.addSeconds?_near moved).2
        have less : (unit * units : Nat) ≤ unit * most := Nat.mul_le_mul_left unit (few units List.mem_cons_self)
        unfold clockFloor
        omega
      · exact ih (fun k member => few k (List.mem_cons_of_mem units member)) run

/-- Next boundaries are near, whatever the zone. -/
theorem next_near {t n : Instant} (run : cal.next g t = .ok (some n)) :
    t.seconds - 86400 * 40 < n.seconds ∧ n.seconds ≤ t.seconds + 86400 * 40 := by
  unfold next at run
  split at run
  · next unit byClock =>
    have isUnit := (Granularity.clockUnit byClock).bounds
    have found := Except.ok.inj run
    have later := (clockNext?_spec found).2
    have near : n.seconds ≤ t.seconds + unit * (3 : Nat) + 1 := clockNext?_near isUnit.1 (by decide) found
    rw [Moment.lt_def] at later
    omega
  · obtain ⟨d, date, run⟩ := bind_eq_ok_iff.1 run
    split at run
    · cases run
    · next following found =>
      obtain ⟨s, dawns, run⟩ := bind_eq_ok_iff.1 run
      cases run
      have first := dateOf_near date
      have second := nextDate?_near found
      have third := dayStart_near dawns
      omega

/-! ## Steps back -/

theorem previous_nanos {t f : Instant} (run : cal.previous g t = .ok (some f)) : f.nanos = 0 := by
  unfold previous at run
  split at run
  · cases run
  · obtain ⟨b, floor, same⟩ := bind_eq_ok_iff.1 run
    cases same
    exact floor_nanos floor

/-- A negative number of buckets is walked back over. -/
theorem step_neg (steps : Nat) (t : Instant) (some_step : 0 < steps) :
    cal.step g (-(steps : Int)) t = walk (cal.previous g) steps t := by
  rw [step, if_pos (by omega), Int.natAbs_neg, Int.natAbs_natCast]

theorem walk_previous_nanos (steps : Nat) {t f : Instant} (whole : t.nanos = 0)
    (run : walk (cal.previous g) steps t = .ok (some f)) : f.nanos = 0 := by
  induction steps generalizing t with
  | zero =>
    cases run
    exact whole
  | succ steps ih =>
    obtain ⟨a, previous, run⟩ := bind_eq_ok_iff.1 run
    cases a with
    | none => cases run
    | some b => exact ih (previous_nanos previous) run

/-! ## Ceilings -/

theorem ceil_nanos {t c : Instant} (run : cal.ceil g t = .ok c) : c.nanos = 0 := by
  obtain ⟨f, floor, run⟩ := bind_eq_ok_iff.1 run
  split at run
  · cases run
    exact floor_nanos floor
  · obtain ⟨following, next, run⟩ := bind_eq_ok_iff.1 run
    cases run
    cases following with
    | none => exact floor_nanos floor
    | some n => exact next_nanos next

/-- A ceiling is not far before an instant, whatever the zone. -/
theorem lt_of_ceil {t c : Instant} (run : cal.ceil g t = .ok c) : t.seconds - 86400 * 75 < c.seconds := by
  obtain ⟨f, floor, run⟩ := bind_eq_ok_iff.1 run
  have near := floor_near floor
  split at run
  · cases run
    omega
  · obtain ⟨following, next, run⟩ := bind_eq_ok_iff.1 run
    cases run
    cases following with
    | none =>
      simp only [Option.getD_none]
      omega
    | some n =>
      have far := (next_near next).1
      simp only [Option.getD_some]
      omega

/-- The calendar leads from the floor of an instant to its ceiling, unless these are one. -/
theorem ceil_of_floor {t f n : Instant} (floor : cal.floor g t = .ok f) (next : cal.next g f = .ok (some n)) :
    cal.ceil g t = .ok (if f = t then f else n) := by
  refine bind_eq_ok_iff.2 ⟨f, floor, ?_⟩
  split
  · rfl
  · exact bind_eq_ok_iff.2 ⟨some n, next, rfl⟩

/-! ## Boundaries -/

/-- A bucket starts at the instant. -/
def Boundary (cal : Calendar) (g : Granularity) (t : Instant) : Prop := cal.floor g t = .ok t

theorem isBoundary_iff {t : Instant} : cal.isBoundary g t = .ok true ↔ cal.Boundary g t := by
  simp only [isBoundary, bind_eq_ok_iff, pure_eq_ok_iff, decide_eq_true_eq, Boundary]
  constructor
  · rintro ⟨f, run, rfl⟩
    exact run
  · intro run
    exact ⟨t, run, rfl⟩

theorem Boundary.nanos {t : Instant} (boundary : cal.Boundary g t) : t.nanos = 0 := floor_nanos boundary

theorem Boundary.plain {t : Instant} (boundary : cal.Boundary g t) : ¬ t.InLeapSecond :=
  Moment.plain_of_whole boundary.nanos

/-- A boundary is its own ceiling. -/
theorem Boundary.ceil {t : Instant} (boundary : cal.Boundary g t) : cal.ceil g t = .ok t := by
  refine bind_eq_ok_iff.2 ⟨t, boundary, ?_⟩
  rw [if_pos rfl]
  rfl

end Calendar

end BucketPlan
