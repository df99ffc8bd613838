import BucketPlan.Proofs.Calendar.Aligned
import BucketPlan.Proofs.Calendar.ClockOrder
import BucketPlan.Proofs.Calendar.Ordered

namespace BucketPlan.FixedRule

variable {r : FixedRule} {g : Granularity} (regular : r.Regular g) (weekStart : Weekday)

/-! ## Buckets cut by the calendar -/

include regular in
theorem opening_le_iff {i n : Int} :
    r.opening g weekStart i ≤ n ↔ i ≤ r.bucketAt g weekStart n := by
  rw [opening, dawn, resolved_midnight_le_iff regular, bucketAt, ← Granularity.leadDay_le_iff, le_dayAt_iff]

include regular in
theorem opening_le {i j : Int} (le : i ≤ j) : r.opening g weekStart i ≤ r.opening g weekStart j := by
  rw [opening_le_iff regular, bucketAt_opening regular.lasting regular.narrow]
  exact le

section ByDate
variable (byDate : g.unitSeconds? = none)
include byDate regular

theorem ordered_byDate : (r.calendar weekStart).Ordered g where
  floor_greatest := by
    intro t inside plain
    obtain ⟨f, floor, isF⟩ := regular.aligns.floor weekStart inside
    obtain ⟨_, i, run, place, exact⟩ := floor_calendar r weekStart byDate (inside.mono 40 (by decide))
    rw [floor] at run
    cases run
    have index := exact plain
    have opens : r.opening g weekStart i ≤ t.place := by rw [opening_le_iff regular, index]
    have closes : t.place < r.opening g weekStart (i + 1) := by
      rw [← Int.not_le, opening_le_iff regular, index]
      omega
    have length := opening_reach r g weekStart i
    refine ⟨f, floor, isF, ?_, ?_, ?_⟩
    · rw [Moment.le_iff_place, place]
      exact opens
    · rw [← place, Moment.place_of_whole isF.nanos] at length
      unfold Moment.place at closes
      unfold Granularity.reach
      omega
    · intro b isB le
      rw [Moment.le_iff_place] at le ⊢
      -- A boundary near the beginning is before every floor; another one opens a bucket.
      by_cases near : b.InsideBy 40
      · have own := boundary_place weekStart byDate near isB
        rw [own, opening_le_iff regular, ← index] at le
        rw [own, place]
        exact opening_le regular weekStart le
      · have close := Calendar.floor_near floor
        rw [Moment.insideBy_def] at near inside
        have nanosB := b.nanos_lt
        have nanosT := t.nanos_lt
        unfold Moment.place at le ⊢
        omega
  next_least := by
    intro t inside boundary
    obtain ⟨n, next, isN, opens⟩ := next_place weekStart byDate regular.lasting regular.narrow inside boundary
    have own := boundary_place weekStart byDate (inside.mono _ (by decide)) boundary
    have later : t.place < n.place := by
      rw [opens, ← Int.not_le, opening_le_iff regular]
      omega
    refine ⟨n, next, isN, Moment.lt_iff_place.2 later, ?_⟩
    intro b isB after
    rw [Moment.lt_iff_place] at after
    rw [Moment.le_iff_place]
    by_cases near : b.InsideBy 40
    · have ownB := boundary_place weekStart byDate near isB
      rw [opens, opening_le_iff regular]
      by_contra before
      have index : r.bucketAt g weekStart b.place ≤ r.bucketAt g weekStart t.place := by omega
      have back := opening_le regular weekStart index
      omega
    · have length := opening_reach r g weekStart (r.bucketAt g weekStart t.place)
      have longest := g.longestDays_le
      rw [← opens, ← own] at length
      have nanosB := b.nanos_lt
      have nanosT := t.nanos_lt
      rw [Moment.insideBy_def] at near inside
      unfold Moment.place at after length ⊢
      omega

end ByDate

/-! ## Buckets cut by the clock -/

section ByClock
variable {unit : Nat} (byClock : g.unitSeconds? = some unit)
include byClock regular

theorem ordered_byClock : (r.calendar weekStart).Ordered g where
  floor_greatest := by
    intro t inside plain
    have isUnit := Granularity.clockUnit byClock
    have small := isUnit.le
    have reach := g.reach_bounds
    obtain ⟨f, floor, isF⟩ := regular.aligns.floor weekStart inside
    obtain ⟨_, run, seconds, _⟩ := floor_clock (r := r) weekStart byClock (inside.mono 1 (by decide))
    rw [floor] at run
    cases run
    have bounds := unitFloor_bounds (r := r) isUnit t.seconds
    refine ⟨f, floor, isF, ?_, by omega, ?_⟩
    · rw [Moment.le_iff_seconds isF.nanos]
      omega
    · intro b isB le
      rw [Moment.le_iff_seconds isB.nanos] at le ⊢
      by_cases near : b.InsideBy 1
      · rw [seconds]
        exact le_unitFloor isUnit regular.lasting regular.wholeSeconds (regular.keepsUnits unit byClock)
          ((boundary_iff_onUnit weekStart byClock near).1 isB).2 le
      · rw [Moment.insideBy_def] at near inside
        omega
  next_least := by
    intro t inside boundary
    have isUnit := Granularity.clockUnit byClock
    have small := isUnit.le
    obtain ⟨_, onT⟩ := (boundary_iff_onUnit weekStart byClock (inside.mono _ (by decide))).1 boundary
    obtain ⟨n, next, isN, seconds⟩ := next_boundary_clock (r := r) weekStart byClock (inside.mono 2 (by decide))
      boundary.nanos
    obtain ⟨_, later, near⟩ := unitNext_spec (r := r) isUnit t.seconds
    refine ⟨n, next, isN, ?_, ?_⟩
    · rw [Moment.lt_iff_seconds isN.nanos]
      omega
    · intro b isB after
      rw [Moment.lt_iff_seconds isB.nanos] at after
      rw [Moment.le_iff_seconds isN.nanos, seconds]
      by_cases nearB : b.InsideBy 1
      · exact unitNext_le isUnit regular.lasting regular.wholeSeconds (regular.keepsUnits unit byClock) onT
          ((boundary_iff_onUnit weekStart byClock nearB).1 isB).2 after
      · rw [Moment.insideBy_def] at nearB inside
        omega

end ByClock

include regular in
/-- The calendar of a regular rule is in order. -/
theorem Regular.ordered : (r.calendar weekStart).Ordered g := by
  cases units : g.unitSeconds? with
  | none => exact ordered_byDate regular weekStart units
  | some unit => exact ordered_byClock regular weekStart units

end BucketPlan.FixedRule
