import BucketPlan.Proofs.Calendar.ClockFloor
import BucketPlan.Proofs.Zone.Regular

namespace BucketPlan.FixedRule

variable {r : FixedRule} {unit : Nat} (isUnit : ClockUnit unit) (lasting : r.Lasting)
  (whole : ∀ s ∈ r.switches, s.instant.nanos = 0) (keeps : ∀ s ∈ r.switches, s.KeepsUnits unit)

include isUnit lasting whole keeps in
theorem le_down {b s : Int} (on : r.OnUnit unit b) (le : b ≤ s) : b ≤ r.down unit s := by
  unfold OnUnit beyond at on
  unfold down beyond
  cases window : r.daylight with
  | none =>
    simp only [aheadAt, window] at on ⊢
    rcases isUnit with rfl | rfl <;> omega
  | some w =>
    have long := Daylight.place_of_lasting (lasting w window)
    have members : r.switches = [⟨w.start, r.standard, w.offset⟩, ⟨w.stop, w.offset, r.standard⟩] := by
      simp only [switches, window]
    rw [members] at whole keeps
    simp only [List.forall_mem_cons, List.not_mem_nil, false_implies, implies_true, and_true] at whole keeps
    have startPlace := Moment.place_of_whole whole.1
    have stopPlace := Moment.place_of_whole whole.2
    obtain ⟨keepsStart, keepsStop⟩ := keeps
    simp only [Switch.KeepsUnits] at keepsStart keepsStop
    have there := aheadAt_window window (2000000000 * b)
    have here := aheadAt_window window (2000000000 * s)
    rcases isUnit with rfl | rfl <;> omega

include isUnit lasting whole keeps in
/-- The floor of a second is the last one on a unit. -/
theorem le_unitFloor {b s : Int} (on : r.OnUnit unit b) (le : b ≤ s) : b ≤ r.unitFloor unit s :=
  le_down isUnit lasting whole keeps on (le_down isUnit lasting whole keeps on
    (le_down isUnit lasting whole keeps on le))

include isUnit lasting in
theorem unit_apart {a b c : Int} (onA : r.OnUnit unit a) (onB : r.OnUnit unit b) (onC : r.OnUnit unit c)
    (ab : a < b) (bc : b < c) : a + unit < c := by
  unfold OnUnit beyond at onA onB onC
  cases window : r.daylight with
  | none =>
    simp only [aheadAt, window] at onA onB onC
    rcases isUnit with rfl | rfl <;> omega
  | some w =>
    have long := Daylight.place_of_lasting (lasting w window)
    have atA := aheadAt_window window (2000000000 * a)
    have atB := aheadAt_window window (2000000000 * b)
    have atC := aheadAt_window window (2000000000 * c)
    rcases isUnit with rfl | rfl <;> omega

include isUnit lasting in
/-- When the unit after `a` holds no second on a unit, the offset has changed in it,
    and the unit after that one holds just one. -/
theorem exists_onUnit {a : Int} (onA : r.OnUnit unit a) (off : ¬ r.OnUnit unit (a + unit)) :
    ∃ c, r.OnUnit unit c ∧ a + unit < c ∧ c ≤ a + 2 * unit ∧
      ∀ b, r.OnUnit unit b → a + unit < b → b ≤ a + 2 * unit → b = c := by
  refine ⟨r.down unit (a + 2 * unit), ?_⟩
  unfold OnUnit beyond at *
  unfold down beyond
  cases window : r.daylight with
  | none =>
    simp only [aheadAt, window] at onA off
    rcases isUnit with rfl | rfl <;> omega
  | some w =>
    have long := Daylight.place_of_lasting (lasting w window)
    have atA := aheadAt_window window (2000000000 * a)
    have atB := aheadAt_window window (2000000000 * (a + unit))
    have atC := aheadAt_window window (2000000000 * (a + 2 * unit))
    generalize found : a + 2 * (unit : Int) - (a + 2 * unit + r.aheadAt (2000000000 * (a + 2 * unit))) % unit = c
    have atFound := aheadAt_window window (2000000000 * c)
    refine ⟨?_, ?_, ?_, ?_⟩
    · rcases isUnit with rfl | rfl <;> omega
    · rcases isUnit with rfl | rfl <;> omega
    · rcases isUnit with rfl | rfl <;> omega
    · intro b onB low high
      have atOther := aheadAt_window window (2000000000 * b)
      rcases isUnit with rfl | rfl <;> omega

include isUnit lasting whole keeps in
/-- The next boundary is the first one after a boundary. -/
theorem unitNext_le {a b : Int} (onA : r.OnUnit unit a) (onB : r.OnUnit unit b) (ab : a < b) :
    r.unitNext unit a ≤ b := by
  have one := unitFloor_bounds (r := r) isUnit (a + unit)
  have two := unitFloor_bounds (r := r) isUnit (a + 2 * unit)
  have onOne := onUnit_unitFloor (r := r) isUnit (a + unit)
  have onTwo := onUnit_unitFloor (r := r) isUnit (a + 2 * unit)
  unfold unitNext
  by_cases first : a < r.unitFloor unit (a + unit)
  · rw [if_pos first]
    by_contra before
    have far := unit_apart isUnit lasting onA onB onOne ab (Int.not_le.1 before)
    omega
  · rw [if_neg first]
    have later : ∀ c, a < c → r.OnUnit unit c → a + unit < c := by
      intro c after on
      by_contra within
      have reached := le_unitFloor isUnit lasting whole keeps on (Int.not_lt.1 within)
      omega
    have positive : (0 : Int) < unit := by rcases isUnit with rfl | rfl <;> decide
    obtain ⟨c, onC, low, high, only⟩ := exists_onUnit isUnit lasting onA
      (fun on => Int.lt_irrefl _ (later (a + unit) (by omega) on))
    have reached := le_unitFloor isUnit lasting whole keeps onC high
    rw [if_pos (by omega), only _ onTwo (by omega) two.2]
    rcases Int.lt_or_le (a + 2 * unit) b with far | near
    · omega
    · rw [only b onB (later b ab onB) near]

end BucketPlan.FixedRule
