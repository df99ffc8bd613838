import BucketPlan.Proofs.Calendar.ClockFloor
import BucketPlan.Proofs.Zone.Regular

namespace BucketPlan.FixedRule

/-- What the buckets of a granularity ask of a rule for floors to be boundaries. -/
def Aligns (r : FixedRule) (g : Granularity) : Prop := g.unitSeconds? = none → r.Lasting ∧ r.Narrow

theorem Regular.aligns {r : FixedRule} {g : Granularity} (regular : r.Regular g) : r.Aligns g :=
  fun _ => ⟨regular.lasting, regular.narrow⟩

variable {r : FixedRule} {g : Granularity} (weekStart : Weekday)

/-! ## Buckets cut by the calendar -/

theorem opening_reach (r : FixedRule) (g : Granularity) (weekStart : Weekday) (i : Int) :
    r.opening g weekStart (i + 1) < r.opening g weekStart i + 172800000000000 * (g.longestDays + 2) := by
  have first := r.dawn_bounds (g.leadDay weekStart i)
  have second := r.dawn_bounds (g.leadDay weekStart (i + 1))
  have length := (Granularity.leadDay_succ_bounds g weekStart i).2
  unfold opening
  omega

section ByDate
variable (byDate : g.unitSeconds? = none)
include byDate

/-- Away from the ends a boundary is the opening of its own bucket. -/
theorem boundary_place {b : Instant} (inside : b.InsideBy 40) (boundary : (r.calendar weekStart).Boundary g b) :
    b.place = r.opening g weekStart (r.bucketAt g weekStart b.place) := by
  obtain ⟨f, i, run, place, exact⟩ := floor_calendar r weekStart byDate inside
  rw [Calendar.Boundary] at boundary
  rw [boundary] at run
  cases run
  rw [← exact]
  · exact place
  · exact Calendar.Boundary.plain boundary

variable (lasting : r.Lasting) (narrow : r.Narrow)
include lasting narrow

/-- Away from the ends the opening of a bucket is a boundary. -/
theorem boundary_of_place {b : Instant} (inside : b.InsideBy 40) (whole : b.nanos = 0) {i : Int}
    (place : b.place = r.opening g weekStart i) : (r.calendar weekStart).Boundary g b := by
  obtain ⟨f, j, run, placeF, exact⟩ := floor_calendar r weekStart byDate inside
  have same : j = i := by rw [exact (Moment.plain_of_whole whole), place, bucketAt_opening lasting narrow]
  rw [Calendar.Boundary, run, Moment.place_injective (placeF.trans (by rw [same, place]))]

/-- The next boundary after a boundary opens the next bucket. -/
theorem next_place {t : Instant} (inside : t.InsideBy 80) (boundary : (r.calendar weekStart).Boundary g t) :
    ∃ n, (r.calendar weekStart).next g t = .ok (some n) ∧ (r.calendar weekStart).Boundary g n ∧
      n.place = r.opening g weekStart (r.bucketAt g weekStart t.place + 1) := by
  obtain ⟨n, run, nanos, place⟩ := next_calendar r weekStart byDate (inside.mono _ (by decide)) boundary.plain
  have own := boundary_place weekStart byDate (inside.mono _ (by decide)) boundary
  generalize r.bucketAt g weekStart t.place = i at own
  have day : r.dayAt t.place = g.leadDay weekStart i := by rw [own, opening, dayAt_dawn lasting narrow]
  have opens : n.place = r.opening g weekStart (i + 1) := by
    rw [place, day, Granularity.followingDay_leadDay, opening]
  refine ⟨n, run, ?_, opens⟩
  have close := opening_reach r g weekStart i
  have longest := g.longestDays_le
  have length := (Granularity.leadDay_succ_bounds g weekStart i).1
  have first := r.dawn_bounds (g.leadDay weekStart i)
  have second := r.dawn_bounds (g.leadDay weekStart (i + 1))
  have nanosT := boundary.nanos
  apply boundary_of_place weekStart byDate lasting narrow ?_ nanos opens
  rw [Moment.insideBy_def] at *
  rw [← opens, ← own] at close
  unfold opening at opens own
  unfold Moment.place at close opens own
  omega

end ByDate

/-! ## Buckets cut by the clock -/

section ByClock
variable {unit : Nat} (byClock : g.unitSeconds? = some unit)
include byClock

/-- Away from the ends the boundaries of the clock are the seconds on a unit. -/
theorem boundary_iff_onUnit {b : Instant} (inside : b.InsideBy 1) :
    (r.calendar weekStart).Boundary g b ↔ b.nanos = 0 ∧ r.OnUnit unit b.seconds := by
  obtain ⟨f, run, seconds, nanos⟩ := floor_clock (r := r) weekStart byClock inside
  rw [Calendar.Boundary, run]
  constructor
  · intro same
    cases same
    refine ⟨nanos, ?_⟩
    rw [seconds]
    exact onUnit_unitFloor (Granularity.clockUnit byClock) _
  · rintro ⟨whole, on⟩
    rw [unitFloor_of_onUnit on] at seconds
    rw [Moment.eq_of_seconds nanos whole seconds]

theorem next_boundary_clock {t : Instant} (inside : t.InsideBy 2) (whole : t.nanos = 0) :
    ∃ n, (r.calendar weekStart).next g t = .ok (some n) ∧ (r.calendar weekStart).Boundary g n ∧
      n.seconds = r.unitNext unit t.seconds := by
  have isUnit := Granularity.clockUnit byClock
  obtain ⟨n, run, seconds, nanos⟩ := next_clock (r := r) weekStart byClock inside whole
  obtain ⟨on, later, near⟩ := unitNext_spec (r := r) isUnit t.seconds
  have small := isUnit.le
  have insideN : n.InsideBy 1 := by rw [Moment.insideBy_def] at *; omega
  refine ⟨n, run, ?_, seconds⟩
  rw [boundary_iff_onUnit weekStart byClock insideN, seconds]
  exact ⟨nanos, on⟩

end ByClock

/-! ## Every granularity -/

/-- Away from the ends an instant, in a leap second too, has a boundary as its floor. -/
theorem Aligns.floor (aligns : r.Aligns g) {t : Instant} (inside : t.InsideBy 80) :
    ∃ f, (r.calendar weekStart).floor g t = .ok f ∧ (r.calendar weekStart).Boundary g f := by
  cases units : g.unitSeconds? with
  | none =>
    obtain ⟨lasting, narrow⟩ := aligns units
    obtain ⟨f, i, run, place, _⟩ := floor_calendar r weekStart units (inside.mono 40 (by decide))
    have insideF := Calendar.floor_inside run inside 40 (by decide)
    exact ⟨f, run, boundary_of_place weekStart units lasting narrow insideF (Calendar.floor_nanos run) place⟩
  | some unit =>
    obtain ⟨f, run, seconds, nanos⟩ := floor_clock (r := r) weekStart units (inside.mono 1 (by decide))
    refine ⟨f, run, ?_⟩
    rw [boundary_iff_onUnit weekStart units (Calendar.floor_inside run inside 1 (by decide)), seconds]
    exact ⟨nanos, onUnit_unitFloor (Granularity.clockUnit units) _⟩

/-- Away from the ends there is a boundary next to a boundary. -/
theorem Aligns.next (aligns : r.Aligns g) {t : Instant} (inside : t.InsideBy 80)
    (boundary : (r.calendar weekStart).Boundary g t) :
    ∃ n, (r.calendar weekStart).next g t = .ok (some n) ∧ (r.calendar weekStart).Boundary g n := by
  cases units : g.unitSeconds? with
  | none =>
    obtain ⟨lasting, narrow⟩ := aligns units
    obtain ⟨n, run, isBoundary, _⟩ := next_place weekStart units lasting narrow inside boundary
    exact ⟨n, run, isBoundary⟩
  | some unit =>
    obtain ⟨n, run, isBoundary, _⟩ :=
      next_boundary_clock (r := r) weekStart units (inside.mono 2 (by decide)) boundary.nanos
    exact ⟨n, run, isBoundary⟩

/-- Away from the ends an instant, in a leap second too, has a boundary as its ceiling. -/
theorem Aligns.ceil (aligns : r.Aligns g) {t : Instant} (inside : t.InsideBy 120) :
    ∃ c, (r.calendar weekStart).ceil g t = .ok c ∧ (r.calendar weekStart).Boundary g c := by
  obtain ⟨f, floor, isF⟩ := aligns.floor weekStart (inside.mono 80 (by decide))
  by_cases same : f = t
  · subst same
    exact ⟨f, isF.ceil, isF⟩
  · obtain ⟨n, next, isN⟩ := aligns.next weekStart (Calendar.floor_inside floor inside 80 (by decide)) isF
    have ceil := Calendar.ceil_of_floor floor next
    rw [if_neg same] at ceil
    exact ⟨n, ceil, isN⟩

end BucketPlan.FixedRule
