import BucketPlan.Proofs.Calendar.ClockFloor

/-!
The floor by the clock makes four passes at most, and the next boundary is the first later
one of three floors. Under a rule neither loop is cut short, even when the window is shorter
than a unit: three passes always end on a unit, less than two units back (`lt_unitFloor`), so
the fourth has nothing left to do and the second attempt has already led on
(`clockLoops_end`).
-/

namespace BucketPlan

namespace Calendar

/-- The passes down from `x` end at `t`, a whole second on a whole unit of the clock, less
    than three units back. Passes beyond the third would not leave it. -/
structure FloorEnds (cal : Calendar) (unit : Nat) (x t : Instant) : Prop where
  aligned : (t.seconds + (cal.zone.offsetAt t).seconds) % (unit : Int) = 0
  whole : t.nanos = 0
  le : t ≤ x
  near : ∃ a, x.addSeconds? (-(3 * unit : Nat)) = some a ∧ a < t
  settled : ∀ more, alignDown cal.zone unit (3 + more) x.truncate = t

/-- One of the three attempts from `x` leads on to `n`, three units ahead at most. Attempts
    beyond the second would not be made. -/
structure NextEnds (cal : Calendar) (unit : Nat) (x n : Instant) : Prop where
  later : x < n
  near : ∃ b, x.addSeconds? (3 * unit : Nat) = some b ∧ n ≤ b
  attempt : ∃ units ∈ [1, 2, 3], ∃ a, x.addSeconds? (unit * units : Nat) = some a ∧ n = cal.clockFloor unit a
  settled : ∀ more, cal.clockNext? unit x (1 :: 2 :: more) = some n

/-! ## Passes that have ended -/

variable {zone : Zone} {unit passes : Nat} {t : Instant}

theorem alignDown_of_aligned (aligned : (t.seconds + (zone.offsetAt t).seconds) % (unit : Int) = 0) :
    alignDown zone unit passes t = t := by
  cases passes with
  | zero => rfl
  | succ passes => simp only [alignDown, aligned, if_true]

theorem alignDown_settled
    (aligned : ((alignDown zone unit passes t).seconds + (zone.offsetAt (alignDown zone unit passes t)).seconds) %
      (unit : Int) = 0) (more : Nat) :
    alignDown zone unit (passes + more) t = alignDown zone unit passes t := by
  induction passes generalizing t with
  | zero =>
    rw [Nat.zero_add]
    exact alignDown_of_aligned aligned
  | succ passes ih =>
    rw [Nat.succ_add]
    simp only [alignDown] at aligned ⊢
    split
    · rfl
    · next beyond =>
      rw [if_neg beyond] at aligned
      split
      · next earlier found =>
        simp only [found] at aligned
        exact ih aligned
      · rfl

end Calendar

namespace FixedRule

variable {r : FixedRule} {unit : Nat} (isUnit : ClockUnit unit)
include isUnit

/-- Three passes go less than two units back: the third, if it still moves, goes by the offset
    of the first, under which the clock shows a whole unit one unit before the end of the first. -/
theorem lt_unitFloor (s : Int) : s - 2 * unit < r.unitFloor unit s := by
  unfold unitFloor down beyond
  cases window : r.daylight with
  | none =>
    simp only [aheadAt, window]
    rcases isUnit with rfl | rfl <;> omega
  | some w =>
    generalize one : s - (s + r.aheadAt (2000000000 * s)) % unit = s1
    generalize two : s1 - (s1 + r.aheadAt (2000000000 * s1)) % unit = s2
    have at0 := aheadAt_window window (2000000000 * s)
    have at1 := aheadAt_window window (2000000000 * s1)
    have at2 := aheadAt_window window (2000000000 * s2)
    rcases isUnit with rfl | rfl <;> omega

variable (weekStart : Weekday) {x : Instant} (inside : x.InsideBy 3)
include inside

theorem alignDown_clockFloor (more : Nat) :
    Calendar.alignDown r.zone unit (3 + more) x.truncate = (r.calendar weekStart).clockFloor unit x := by
  have room : firstSecond + 3600 * (3 : Nat) ≤ x.truncate.seconds := by
    have low := inside.1
    simp only [Moment.truncate]
    omega
  have third : (Calendar.alignDown r.zone unit 3 x.truncate).seconds = r.unitFloor unit x.seconds :=
    alignDown_seconds isUnit 3 rfl room
  have whole : (Calendar.alignDown r.zone unit 3 x.truncate).nanos = 0 := Calendar.alignDown_nanos _ _ _ _ rfl
  have on : r.OnUnit unit (Calendar.alignDown r.zone unit 3 x.truncate).seconds := by
    rw [third]
    exact onUnit_unitFloor isUnit x.seconds
  have aligned := (beyond_eq r unit whole).trans on
  calc Calendar.alignDown r.zone unit (3 + more) x.truncate
      _ = Calendar.alignDown r.zone unit 3 x.truncate := Calendar.alignDown_settled aligned more
      _ = Calendar.alignDown r.zone unit (3 + 1) x.truncate := (Calendar.alignDown_settled aligned 1).symm

theorem floorEnds_clockFloor :
    (r.calendar weekStart).FloorEnds unit x ((r.calendar weekStart).clockFloor unit x) := by
  obtain ⟨seconds, nanos⟩ := clockFloor_spec (r := r) isUnit weekStart (inside.mono 1 (by decide))
  have back := lt_unitFloor (r := r) isUnit x.seconds
  have down := (unitFloor_bounds (r := r) isUnit x.seconds).2
  have small := isUnit.bounds
  obtain ⟨a, run, _⟩ := Moment.addSeconds?_inside (d := -(3 * unit : Nat)) inside (by omega) (by omega)
  have near := Moment.addSeconds?_near run
  refine ⟨?_, nanos, ?_, ⟨a, run, ?_⟩, alignDown_clockFloor isUnit weekStart inside⟩
  · exact (beyond_eq r unit nanos).trans (seconds ▸ onUnit_unitFloor isUnit x.seconds)
  · rw [Moment.le_iff_seconds nanos]
    omega
  · rw [Moment.lt_iff_seconds nanos]
    omega

theorem exists_attempt (units : Nat) (few : units ≤ 3) :
    ∃ a, x.addSeconds? (unit * units : Nat) = some a ∧
      ((r.calendar weekStart).clockFloor unit a).nanos = 0 ∧
      x.seconds + unit * units - 2 * unit < ((r.calendar weekStart).clockFloor unit a).seconds ∧
      ((r.calendar weekStart).clockFloor unit a).seconds ≤ x.seconds + unit * units + 1 := by
  have short : unit * units < 86400 := by rcases isUnit with rfl | rfl <;> omega
  have distance : ((unit * units : Nat) : Int) = unit * units := Int.natCast_mul unit units
  obtain ⟨a, run, _⟩ := Moment.addSeconds?_inside (d := (unit * units : Nat)) inside (by omega) (by omega)
  have near := Moment.addSeconds?_near run
  have insideA : a.InsideBy 1 := by rw [Moment.insideBy_def] at *; omega
  obtain ⟨seconds, nanos⟩ := clockFloor_spec (r := r) isUnit weekStart insideA
  have back := lt_unitFloor (r := r) isUnit a.seconds
  have down := (unitFloor_bounds (r := r) isUnit a.seconds).2
  exact ⟨a, run, nanos, by omega, by omega⟩

theorem exists_nextEnds : ∃ n, (r.calendar weekStart).NextEnds unit x n := by
  have small := isUnit.bounds
  obtain ⟨one, runOne, nanosOne, lowOne, highOne⟩ :=
    exists_attempt (r := r) isUnit weekStart inside 1 (by decide)
  obtain ⟨two, runTwo, nanosTwo, lowTwo, highTwo⟩ :=
    exists_attempt (r := r) isUnit weekStart inside 2 (by decide)
  obtain ⟨b, runB, _⟩ := Moment.addSeconds?_inside (d := (3 * unit : Nat)) inside (by omega) (by omega)
  have near := Moment.addSeconds?_near runB
  by_cases first : x < (r.calendar weekStart).clockFloor unit one
  · refine ⟨_, first, ⟨b, runB, ?_⟩, ⟨1, by decide, one, runOne, rfl⟩, ?_⟩
    · rw [Moment.le_iff_seconds nanosOne]
      omega
    · intro more
      simp only [Calendar.clockNext?, runOne, first, if_true]
  · -- From two units ahead no floor falls back to `x`.
    have second : x < (r.calendar weekStart).clockFloor unit two := by
      rw [Moment.lt_iff_seconds nanosTwo]
      omega
    refine ⟨_, second, ⟨b, runB, ?_⟩, ⟨2, by decide, two, runTwo, rfl⟩, ?_⟩
    · rw [Moment.le_iff_seconds nanosTwo]
      omega
    · intro more
      simp only [Calendar.clockNext?, runOne, first, if_false, runTwo, second, if_true]

omit isUnit inside

/-- Under any rule the bounded loops by the clock come to their own ends: the floor on a whole
    unit less than three units back, and the next boundary at one of its attempts, three units
    ahead at most. -/
theorem clockLoops_end (r : FixedRule) (weekStart : Weekday) {unit : Nat} (isUnit : ClockUnit unit) {x : Instant}
    (inside : x.InsideBy 3) :
    (r.calendar weekStart).FloorEnds unit x ((r.calendar weekStart).clockFloor unit x) ∧
      ∀ g : Granularity, g.unitSeconds? = some unit →
        ∃ n, (r.calendar weekStart).next g x = .ok (some n) ∧ (r.calendar weekStart).NextEnds unit x n := by
  refine ⟨floorEnds_clockFloor isUnit weekStart inside, fun g byClock => ?_⟩
  obtain ⟨n, ends⟩ := exists_nextEnds (r := r) isUnit weekStart inside
  refine ⟨n, ?_, ends⟩
  simp only [Calendar.next, byClock, ends.settled [3]]

/-- A clock that is a second behind from half a second before one o'clock to half a second
    after. -/
def stumbling : FixedRule where
  id := "Stumbling"
  standard := .utc
  daylight := some {
    offset := ⟨-1, by decide, by decide⟩
    start := (Moment.ofParts? 3599 500000000).get (by decide)
    stop := (Moment.ofParts? 3600 500000000).get (by decide) }

/-- Shortly before two o'clock the floor is midnight, by three passes: at one o'clock the clock
    shows 0:59:59, and the second pass ends a second after midnight. So the bucket that begins
    at midnight is two hours long, and the first attempt from within it falls back to its start. -/
theorem stumbling_clockLoops :
    (stumbling.calendar .monday).FloorEnds 3600 ((Moment.ofParts? 7199 900000000).get (by decide))
        ((Moment.ofSeconds? 0).get (by decide)) ∧
      (Calendar.alignDown stumbling.zone 3600 2 ((Moment.ofSeconds? 7199).get (by decide))).seconds = 1 ∧
      (stumbling.calendar .monday).NextEnds 3600 ((Moment.ofParts? 0 250000000).get (by decide))
        ((Moment.ofSeconds? 7200).get (by decide)) ∧
      (stumbling.calendar .monday).clockNext? 3600 ((Moment.ofParts? 0 250000000).get (by decide)) [1] = none := by
  have hours : ClockUnit 3600 := .inr rfl
  have ends := (clockLoops_end stumbling .monday hours
    (x := (Moment.ofParts? 7199 900000000).get (by decide)) (by decide)).1
  obtain ⟨n, next, leads⟩ := (clockLoops_end stumbling .monday hours
    (x := (Moment.ofParts? 0 250000000).get (by decide)) (by decide)).2 .hour rfl
  have floor : (stumbling.calendar .monday).clockFloor 3600 ((Moment.ofParts? 7199 900000000).get (by decide)) =
      (Moment.ofSeconds? 0).get (by decide) := by decide
  have two : (stumbling.calendar .monday).next .hour ((Moment.ofParts? 0 250000000).get (by decide)) =
      .ok (some ((Moment.ofSeconds? 7200).get (by decide))) := by decide
  rw [floor] at ends
  rw [two] at next
  cases next
  exact ⟨ends, by decide, leads, by decide⟩

end FixedRule

end BucketPlan
