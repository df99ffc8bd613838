import BucketPlan.Proofs.Calendar.ClockFloor

/-!
When a switch moves the clock by less than a whole unit, a pass down from just after
it can step over the last whole unit that the clock showed before it. The next
boundary after such a floor is the unit that was passed over, and so not after the
instant (`unitNext_unitFloor_le_iff`). The switch alone tells whether this happens
(`passed_over_iff`).
-/

namespace BucketPlan

namespace Switch

/-- The last second before the switch at which the clock shows a whole unit. -/
def lastUnit (s : Switch) (unit : Nat) : Int :=
  (s.instant.place - 1) / 2000000000 - ((s.instant.place - 1) / 2000000000 + s.before.seconds) % unit

/-- The switch is not after the second `n`, and going back from there by what the clock
    shows beyond a whole unit leads over the last whole unit before the switch. -/
def PassesOver (s : Switch) (unit : Nat) (n : Int) : Prop :=
  s.instant.place ≤ 2000000000 * n ∧ n - (n + s.after.seconds) % unit < s.lastUnit unit

end Switch

namespace FixedRule

variable {r : FixedRule} {unit : Nat} (isUnit : ClockUnit unit) (lasting : r.Lasting)
include isUnit lasting

theorem unitFloor_eq (n : Int) : r.unitFloor unit n = r.down unit (r.down unit n) := by
  apply down_of_onUnit
  unfold OnUnit down beyond
  cases window : r.daylight with
  | none =>
    simp only [aheadAt, window]
    rcases isUnit with rfl | rfl <;> omega
  | some w =>
    have long := Daylight.place_of_lasting (lasting w window)
    generalize one : n - (n + r.aheadAt (2000000000 * n)) % unit = n1
    generalize two : n1 - (n1 + r.aheadAt (2000000000 * n1)) % unit = n2
    have at0 := aheadAt_window window (2000000000 * n)
    have at1 := aheadAt_window window (2000000000 * n1)
    have at2 := aheadAt_window window (2000000000 * n2)
    rcases isUnit with rfl | rfl <;> omega

theorem eq_of_passed_over {b n : Int} (on : r.OnUnit unit b) (low : r.unitFloor unit n < b) (high : b ≤ n) :
    b = r.unitFloor unit n + unit := by
  rw [unitFloor_eq isUnit lasting] at *
  unfold OnUnit beyond at on
  unfold down beyond at *
  cases window : r.daylight with
  | none =>
    simp only [aheadAt, window] at *
    rcases isUnit with rfl | rfl <;> omega
  | some w =>
    have long := Daylight.place_of_lasting (lasting w window)
    generalize one : n - (n + r.aheadAt (2000000000 * n)) % unit = n1 at *
    have at0 := aheadAt_window window (2000000000 * n)
    have at1 := aheadAt_window window (2000000000 * n1)
    have atB := aheadAt_window window (2000000000 * b)
    rcases isUnit with rfl | rfl <;> omega

/-- The next boundary after a floor is not after the instant when the floor passes over
    a whole unit. -/
theorem unitNext_unitFloor_le_iff (n : Int) :
    r.unitNext unit (r.unitFloor unit n) ≤ n ↔ ∃ b, r.OnUnit unit b ∧ r.unitFloor unit n < b ∧ b ≤ n := by
  constructor
  · intro le
    obtain ⟨on, later, _⟩ := unitNext_spec (r := r) isUnit (r.unitFloor unit n)
    exact ⟨_, on, later, le⟩
  · rintro ⟨b, on, low, high⟩
    have next := eq_of_passed_over isUnit lasting on low high
    unfold unitNext
    rw [← next, unitFloor_of_onUnit on, if_pos low]
    exact high

/-- A floor passes over a whole unit when a switch does. -/
theorem passed_over_iff (n : Int) :
    (∃ b, r.OnUnit unit b ∧ r.unitFloor unit n < b ∧ b ≤ n) ↔ ∃ s ∈ r.switches, s.PassesOver unit n := by
  rw [unitFloor_eq isUnit lasting]
  unfold OnUnit down beyond
  cases window : r.daylight with
  | none =>
    simp only [aheadAt, switches, window, List.not_mem_nil, false_and, exists_false, iff_false]
    rintro ⟨b, on, low, high⟩
    rcases isUnit with rfl | rfl <;> omega
  | some w =>
    rw [exists_switch_window window]
    have long := Daylight.place_of_lasting (lasting w window)
    generalize one : n - (n + r.aheadAt (2000000000 * n)) % unit = n1
    have at0 := aheadAt_window window (2000000000 * n)
    have at1 := aheadAt_window window (2000000000 * n1)
    simp only [Switch.PassesOver, Switch.lastUnit]
    constructor
    · rintro ⟨b, on, low, high⟩
      have atB := aheadAt_window window (2000000000 * b)
      rcases isUnit with rfl | rfl <;> omega
    · -- The last whole unit before the switch is passed over.
      rintro (⟨since, past⟩ | ⟨since, past⟩)
      · generalize last : (w.start.place - 1) / 2000000000 -
          ((w.start.place - 1) / 2000000000 + r.standard.seconds) % (unit : Int) = b at past
        have atB := aheadAt_window window (2000000000 * b)
        refine ⟨b, ?_⟩
        rcases isUnit with rfl | rfl <;> omega
      · generalize last : (w.stop.place - 1) / 2000000000 -
          ((w.stop.place - 1) / 2000000000 + w.offset.seconds) % (unit : Int) = b at past
        have atB := aheadAt_window window (2000000000 * b)
        refine ⟨b, ?_⟩
        rcases isUnit with rfl | rfl <;> omega

end FixedRule

end BucketPlan
