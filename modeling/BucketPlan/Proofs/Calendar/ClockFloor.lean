import BucketPlan.Bucket.Cursor
import BucketPlan.Proofs.Calendar.LocalDays

/-!
A second is on a unit when the clock shows a whole unit there (`OnUnit`). One pass
goes down by what the clock shows beyond a whole unit (`down`). Three passes always
end on a unit, whatever the window of the rule (`onUnit_unitFloor`), since each pass
but the last crosses a switch; with a lasting window two passes do. The floor of an
instant and the next boundary are these numbers (`floor_clock`, `next_clock`).
-/

namespace BucketPlan

namespace FixedRule

/-- What the clock shows beyond a whole unit at a second. -/
def beyond (r : FixedRule) (unit : Nat) (s : Int) : Int := (s + r.aheadAt (2000000000 * s)) % unit

/-- The clock shows a whole unit at the second. -/
def OnUnit (r : FixedRule) (unit : Nat) (s : Int) : Prop := r.beyond unit s = 0

/-- One pass down. -/
def down (r : FixedRule) (unit : Nat) (s : Int) : Int := s - r.beyond unit s

/-- The second on a unit that repeated passes lead to. -/
def unitFloor (r : FixedRule) (unit : Nat) (s : Int) : Int := r.down unit (r.down unit (r.down unit s))

/-- The first of three floors that is later than `s`, the last one at worst. -/
def unitNext (r : FixedRule) (unit : Nat) (s : Int) : Int :=
  if s < r.unitFloor unit (s + unit) then r.unitFloor unit (s + unit)
  else if s < r.unitFloor unit (s + 2 * unit) then r.unitFloor unit (s + 2 * unit)
  else r.unitFloor unit (s + 3 * unit)

variable {r : FixedRule} {unit : Nat}

theorem down_of_onUnit {s : Int} (on : r.OnUnit unit s) : r.down unit s = s := by
  rw [down, on, Int.sub_zero]

theorem down_bounds (isUnit : ClockUnit unit) (s : Int) : s - unit < r.down unit s ∧ r.down unit s ≤ s := by
  unfold down beyond
  rcases isUnit with rfl | rfl <;> omega

/-- Whatever the window, three passes end on a unit. -/
theorem onUnit_unitFloor (isUnit : ClockUnit unit) (s : Int) : r.OnUnit unit (r.unitFloor unit s) := by
  unfold OnUnit unitFloor down beyond
  cases window : r.daylight with
  | none =>
    simp only [aheadAt, window]
    rcases isUnit with rfl | rfl <;> omega
  | some w =>
    generalize one : s - (s + r.aheadAt (2000000000 * s)) % unit = s1
    generalize two : s1 - (s1 + r.aheadAt (2000000000 * s1)) % unit = s2
    generalize three : s2 - (s2 + r.aheadAt (2000000000 * s2)) % unit = s3
    have at0 := aheadAt_window window (2000000000 * s)
    have at1 := aheadAt_window window (2000000000 * s1)
    have at2 := aheadAt_window window (2000000000 * s2)
    have at3 := aheadAt_window window (2000000000 * s3)
    rcases isUnit with rfl | rfl <;> omega

theorem unitFloor_bounds (isUnit : ClockUnit unit) (s : Int) :
    s - 3 * unit < r.unitFloor unit s ∧ r.unitFloor unit s ≤ s := by
  have first := down_bounds (r := r) isUnit s
  have second := down_bounds (r := r) isUnit (r.down unit s)
  have third := down_bounds (r := r) isUnit (r.down unit (r.down unit s))
  unfold unitFloor
  omega

theorem unitFloor_of_onUnit {s : Int} (on : r.OnUnit unit s) : r.unitFloor unit s = s := by
  rw [unitFloor, down_of_onUnit on, down_of_onUnit on, down_of_onUnit on]

/-- The next boundary is on a unit, later, and at most three units later. -/
theorem unitNext_spec (isUnit : ClockUnit unit) (s : Int) :
    r.OnUnit unit (r.unitNext unit s) ∧ s < r.unitNext unit s ∧ r.unitNext unit s ≤ s + 3 * unit := by
  have one := unitFloor_bounds (r := r) isUnit (s + unit)
  have two := unitFloor_bounds (r := r) isUnit (s + 2 * unit)
  have three := unitFloor_bounds (r := r) isUnit (s + 3 * unit)
  unfold unitNext
  split
  · exact ⟨onUnit_unitFloor isUnit _, by omega, by omega⟩
  · split
    · exact ⟨onUnit_unitFloor isUnit _, by omega, by omega⟩
    · exact ⟨onUnit_unitFloor isUnit _, by omega, by omega⟩

/-! ## The passes of the calendar -/

theorem beyond_eq (r : FixedRule) (unit : Nat) {t : Instant} (whole : t.nanos = 0) :
    (t.seconds + (r.zone.offsetAt t).seconds) % (unit : Int) = r.beyond unit t.seconds := by
  have ahead : (r.zone.offsetAt t).seconds = r.aheadAt t.place := offsetAt_seconds r t
  rw [ahead, beyond, Moment.place_of_whole whole, Int.mul_comm]

theorem alignDown_seconds (isUnit : ClockUnit unit) (passes : Nat) {t : Instant} (whole : t.nanos = 0)
    (room : firstSecond + 3600 * passes ≤ t.seconds) :
    (Calendar.alignDown r.zone unit passes t).seconds = (r.down unit)^[passes] t.seconds := by
  induction passes generalizing t with
  | zero => rfl
  | succ passes ih =>
    have bounds := down_bounds (r := r) isUnit t.seconds
    have last := t.le_last
    rw [Calendar.alignDown, Function.iterate_succ_apply]
    simp only [beyond_eq r unit whole]
    by_cases on : r.beyond unit t.seconds = 0
    · -- From a unit on, every further pass stays.
      rw [if_pos on, down_of_onUnit on]
      have stays : ∀ n, (r.down unit)^[n] t.seconds = t.seconds := fun n =>
        Function.iterate_fixed (down_of_onUnit on) n
      rw [stays]
    · rw [if_neg on]
      have small := isUnit.le
      obtain ⟨earlier, found, seconds, nanos⟩ : ∃ n, Moment.ofSeconds? (r.down unit t.seconds) = some n ∧
          n.seconds = r.down unit t.seconds ∧ n.nanos = 0 := by
        refine ⟨⟨r.down unit t.seconds, 0, by omega, by omega, by decide, by simp⟩, ?_, rfl, rfl⟩
        exact Moment.ofSeconds?_eq_some_iff.2 ⟨rfl, rfl⟩
      have step := ih nanos (by omega)
      rw [seconds] at step
      unfold down at found
      simp only [found]
      exact step

/-- The floor of an instant by the clock: the second on a unit that its second leads
    to. -/
theorem clockFloor_spec (isUnit : ClockUnit unit) (weekStart : Weekday) {t : Instant} (inside : t.InsideBy 1) :
    ((r.calendar weekStart).clockFloor unit t).seconds = r.unitFloor unit t.seconds ∧
      ((r.calendar weekStart).clockFloor unit t).nanos = 0 := by
  refine ⟨?_, Calendar.clockFloor_nanos _ _ _⟩
  have room : firstSecond + 3600 * (4 : Nat) ≤ t.truncate.seconds := by
    have low := inside.1
    simp only [Moment.truncate]
    omega
  have passes := alignDown_seconds (r := r) isUnit 4 (t := t.truncate) rfl room
  have fourth := down_of_onUnit (onUnit_unitFloor (r := r) isUnit t.seconds)
  exact passes.trans fourth

theorem floor_clock (weekStart : Weekday) {g : Granularity} (byClock : g.unitSeconds? = some unit) {t : Instant}
    (inside : t.InsideBy 1) :
    ∃ f, (r.calendar weekStart).floor g t = .ok f ∧ f.seconds = r.unitFloor unit t.seconds ∧ f.nanos = 0 := by
  obtain ⟨seconds, nanos⟩ := clockFloor_spec (r := r) (Granularity.clockUnit byClock) weekStart inside
  refine ⟨(r.calendar weekStart).clockFloor unit t, ?_, seconds, nanos⟩
  simp only [Calendar.floor, byClock]

/-- The next boundary by the clock after a whole second. -/
theorem next_clock (weekStart : Weekday) {g : Granularity} (byClock : g.unitSeconds? = some unit) {t : Instant}
    (inside : t.InsideBy 2) (whole : t.nanos = 0) :
    ∃ n, (r.calendar weekStart).next g t = .ok (some n) ∧ n.seconds = r.unitNext unit t.seconds ∧ n.nanos = 0 := by
  have isUnit := Granularity.clockUnit byClock
  have ahead : ∀ (k : Nat) (d : Int), d = (unit * k : Nat) → k ≤ 3 → ∃ a, t.addSeconds? (unit * k : Nat) = some a ∧
      ((r.calendar weekStart).clockFloor unit a).seconds = r.unitFloor unit (t.seconds + d) := by
    intro k d same few
    have short : unit * k < 86400 := by rcases isUnit with rfl | rfl <;> omega
    obtain ⟨a, run, exact⟩ := Moment.addSeconds?_inside (d := (unit * k : Nat)) inside (by omega) (by omega)
    have seconds : a.seconds = t.seconds + d := by rw [(exact (Moment.plain_of_whole whole)).1, same]
    have near : a.InsideBy 1 := by rw [Moment.insideBy_def] at *; omega
    refine ⟨a, run, ?_⟩
    rw [(clockFloor_spec isUnit weekStart near).1, seconds]
  obtain ⟨one, runOne, floorOne⟩ := ahead 1 unit (by omega) (by decide)
  obtain ⟨two, runTwo, floorTwo⟩ := ahead 2 (2 * unit) (by omega) (by decide)
  obtain ⟨three, runThree, floorThree⟩ := ahead 3 (3 * unit) (by omega) (by decide)
  have later : t.seconds < r.unitFloor unit (t.seconds + 3 * unit) := by
    have bounds := unitFloor_bounds (r := r) isUnit (t.seconds + 3 * unit)
    omega
  -- An instant is before a floor when its second is.
  have before : ∀ a, t < (r.calendar weekStart).clockFloor unit a ↔
      t.seconds < ((r.calendar weekStart).clockFloor unit a).seconds := fun a =>
    Moment.lt_iff_seconds (Calendar.clockFloor_nanos _ _ _)
  simp only [Calendar.next, byClock, Calendar.clockNext?, runOne, runTwo, runThree, before, floorOne, floorTwo,
    floorThree, later, if_true]
  unfold unitNext
  split
  · exact ⟨_, rfl, floorOne, Calendar.clockFloor_nanos _ _ _⟩
  · split
    · exact ⟨_, rfl, floorTwo, Calendar.clockFloor_nanos _ _ _⟩
    · exact ⟨_, rfl, floorThree, Calendar.clockFloor_nanos _ _ _⟩

end FixedRule
end BucketPlan
