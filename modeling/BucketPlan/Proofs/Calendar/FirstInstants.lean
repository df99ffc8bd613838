import BucketPlan.Proofs.Calendar.LocalDays
import BucketPlan.Proofs.Zone.InverseImage
import Mathlib.Order.Bounds.Basic

/-!
A zone is meant to read a local time as the first instant at which its clock has reached
that time; for a time that a switch skips this is the instant of the switch. It does so
unless the switch skips other times before this one: the zone goes back by the offset from
before the switch, and so reads every skipped time but the first as later than the switch,
by as much as it is later than the first (`ofLocal_first_iff`). For the same reason a day
starts with its first instant unless a switch skips its midnight and times before it.
-/

namespace BucketPlan

/-- The local times outside leap seconds that the switch skips. -/
def Switch.skipped (s : Switch) : Set WallTime := {l | ¬ l.InLeapSecond ∧ s.Skips l.place}

/-- The instants outside leap seconds at which the clock has reached a local time. -/
def Zone.reaching (z : Zone) (l : WallTime) : Set Instant :=
  {t | ¬ t.InLeapSecond ∧ ∃ now, z.toLocal t = .ok now ∧ l ≤ now}

/-- The instants outside leap seconds of a local date. -/
def Calendar.instantsOn (cal : Calendar) (d : Date) : Set Instant :=
  {t | ¬ t.InLeapSecond ∧ cal.dateOf t = .ok d}

namespace FixedRule

/-- A switch skips the local time, but not as the first. -/
def SkippedLater (r : FixedRule) (l : WallTime) : Prop := ∃ s ∈ r.switches, l ∈ s.skipped ∧ ¬ IsLeast s.skipped l

variable {r : FixedRule} {s : Switch} {l : WallTime} {t x : Instant}

/-! ## The clock behind a switch -/

section Switch
variable (lasting : r.Lasting) (member : s ∈ r.switches)
include lasting member

theorem resolved_of_skips {n : Int} (skips : s.Skips n) : r.resolved n = n - 2000000000 * s.before.seconds := by
  unfold resolved
  unfold Switch.Skips at skips
  cases window : r.daylight with
  | none => simp [switches, window] at member
  | some w =>
    have bounds := window_bounds lasting window
    have reading := offsetOn_window lasting window n
    simp only [switches, window, List.mem_cons, List.not_mem_nil, or_false] at member
    rcases member with rfl | rfl
    · simp only at skips ⊢
      rcases reading with ⟨_, _, eq⟩ | ⟨_, _, _, eq⟩ | ⟨_, _, eq⟩ | ⟨_, _, eq⟩ <;> omega
    · simp only at skips ⊢
      rcases reading with ⟨_, _, eq⟩ | ⟨_, _, _, eq⟩ | ⟨_, _, eq⟩ | ⟨_, _, eq⟩ <;> omega

theorem aheadAt_of_skips {n m : Int} (skips : s.Skips n) (since : s.instant.place ≤ m)
    (before : m < n - 2000000000 * s.before.seconds) : r.aheadAt m = s.after.seconds := by
  unfold Switch.Skips at skips
  cases window : r.daylight with
  | none => simp [switches, window] at member
  | some w =>
    have bounds := window_bounds lasting window
    have now := aheadAt_window window m
    simp only [switches, window, List.mem_cons, List.not_mem_nil, or_false] at member
    rcases member with rfl | rfl
    · simp only at skips since before ⊢
      omega
    · simp only at skips since before ⊢
      omega

end Switch

theorem Narrow.switch (narrow : r.Narrow) (member : s ∈ r.switches) :
    s.after.seconds < s.before.seconds + 86400 := by
  cases window : r.daylight with
  | none => simp [switches, window] at member
  | some w =>
    obtain ⟨low, high⟩ := abs_lt.1 (narrow w window)
    simp only [switches, window, List.mem_cons, List.not_mem_nil, or_false] at member
    rcases member with rfl | rfl
    · simp only
      omega
    · simp only
      omega

/-! ## Instants that have reached a local time -/

theorem mem_reaching_iff (inside : x.InsideBy 1) :
    x ∈ r.zone.reaching l ↔ ¬ x.InLeapSecond ∧ l.place ≤ r.shown x.place := by
  obtain ⟨now, run, exact⟩ := toLocal_spec r inside
  constructor
  · rintro ⟨plain, _, again, le⟩
    rw [run] at again
    cases again
    rw [Moment.le_iff_place, (exact plain).1] at le
    exact ⟨plain, le⟩
  · rintro ⟨plain, le⟩
    refine ⟨plain, now, run, ?_⟩
    rwa [Moment.le_iff_place, (exact plain).1]

theorem near_of_reaching (reached : x ∈ r.zone.reaching l) : l.seconds - 86400 < x.seconds := by
  obtain ⟨plain, now, run, le⟩ := reached
  have upper := (r.zone.offsetAt x).upper
  have seconds := ((Moment.addSeconds?_eq_some_iff (Nat.lt_of_not_le plain)).1 (Moment.plus_eq_ok_iff.1 run)).1
  have order := Moment.seconds_le le
  omega

theorem near_of_skips (skips : s.Skips l.place) (since : s.instant.place ≤ x.place) :
    l.seconds - 86400 < x.seconds := by
  have upper := s.after.upper
  have small := x.nanos_lt
  have skipped := skips.1
  simp only [Moment.place] at skipped since
  omega

section Reading
variable (lasting : r.Lasting) (inside : l.InsideBy 3) (plain : ¬ l.InLeapSecond) (reads : r.zone.ofLocal l = .ok t)
include inside plain reads

theorem place_of_reads : t.place = r.resolved l.place ∧ ¬ t.InLeapSecond ∧ t.InsideBy 1 := by
  obtain ⟨_, again, place, nanos⟩ := ofLocal_spec r (inside.mono 2 (by decide)) plain
  rw [reads] at again
  cases again
  have bounds := r.offsetOn_bounds l.place
  have placeL : l.place = l.seconds * 2000000000 + l.nanos := rfl
  have placeT : t.place = t.seconds * 2000000000 + t.nanos := rfl
  refine ⟨place, by rwa [Moment.InLeapSecond, nanos], ?_⟩
  rw [resolved] at place
  rw [Moment.insideBy_def] at *
  omega

include lasting

theorem mem_reaching_of_reads : t ∈ r.zone.reaching l := by
  obtain ⟨place, plainT, insideT⟩ := place_of_reads inside plain reads
  rw [mem_reaching_iff insideT, place]
  exact ⟨plainT, le_shown_resolved lasting l.place⟩

theorem mem_reaching_before_iff (plainX : ¬ x.InLeapSecond) (before : x < t) :
    x ∈ r.zone.reaching l ↔ ∃ s ∈ r.switches, s.Skips l.place ∧ s.instant ≤ x := by
  obtain ⟨place, _, insideT⟩ := place_of_reads inside plain reads
  have order := Moment.seconds_le (le_of_lt before)
  rw [Moment.lt_iff_place] at before
  constructor
  · intro reached
    have near := near_of_reaching reached
    have insideX : x.InsideBy 1 := by rw [Moment.insideBy_def] at *; omega
    obtain ⟨_, le⟩ := (mem_reaching_iff insideX).1 reached
    rw [place, lt_resolved_iff lasting le] at before
    obtain ⟨s, member, skips, since, _⟩ := before
    exact ⟨s, member, skips, Moment.le_iff_place.2 since⟩
  · rintro ⟨s, member, skips, since⟩
    rw [Moment.le_iff_place] at since
    rw [place, resolved_of_skips lasting member skips] at before
    have ahead := aheadAt_of_skips lasting member skips since before
    have near := near_of_skips skips since
    have insideX : x.InsideBy 1 := by rw [Moment.insideBy_def] at *; omega
    have skipped := skips.1
    refine (mem_reaching_iff insideX).2 ⟨plainX, ?_⟩
    rw [shown, ahead]
    omega

theorem behind_of_reads (member : s ∈ r.switches) (skipped : l ∈ s.skipped) :
    t.place = l.place - 2000000000 * s.before.seconds ∧ s.instant ≤ t := by
  have place := (place_of_reads inside plain reads).1
  rw [resolved_of_skips lasting member skipped.2] at place
  refine ⟨place, ?_⟩
  rw [Moment.le_iff_place, place]
  exact skipped.2.2

theorem isLeast_skipped_iff (member : s ∈ r.switches) (skipped : l ∈ s.skipped) :
    IsLeast s.skipped l ↔ IsLeast {x : Instant | ¬ x.InLeapSecond ∧ s.instant ≤ x} t := by
  obtain ⟨_, plainT, insideT⟩ := place_of_reads inside plain reads
  obtain ⟨place, behind⟩ := behind_of_reads lasting inside plain reads member skipped
  obtain ⟨_, skips⟩ := skipped
  have low := s.before.lower
  have high := s.before.upper
  have upper := s.after.upper
  constructor
  · rintro ⟨_, first⟩
    refine ⟨⟨plainT, behind⟩, ?_⟩
    rintro x ⟨plainX, since⟩
    by_contra before
    have order := Moment.seconds_le (le_of_lt (not_le.1 before))
    rw [Moment.le_iff_place] at before since
    have near := near_of_skips skips since
    have insideX : x.InsideBy 1 := by rw [Moment.insideBy_def] at *; omega
    obtain ⟨m, run, placeM, _⟩ := Moment.plus_inside (d := s.before.seconds) insideX plainX (by omega) (by omega)
    have plainM := Moment.plain_of_plus plainX run
    have least := first (show m ∈ s.skipped from ⟨plainM, by unfold Switch.Skips at *; omega⟩)
    rw [Moment.le_iff_place] at least
    omega
  · rintro ⟨_, first⟩
    refine ⟨⟨plain, skips⟩, ?_⟩
    rintro m ⟨plainM, skipsM⟩
    by_contra before
    have order := Moment.seconds_le (le_of_lt (not_le.1 before))
    rw [Moment.le_iff_place] at before
    have insideM : m.InsideBy 1 := by
      have small := m.nanos_lt
      have since := skipsM.2
      have skipped := skips.1
      simp only [Moment.place] at since skipped
      rw [Moment.insideBy_def] at *
      omega
    obtain ⟨x, run, placeX, _⟩ := Moment.plus_inside (d := -s.before.seconds) insideM plainM (by omega) (by omega)
    have plainX := Moment.plain_of_plus plainM run
    have least := first (show x ∈ {x : Instant | ¬ x.InLeapSecond ∧ s.instant ≤ x} from
      ⟨plainX, by rw [Moment.le_iff_place]; unfold Switch.Skips at skipsM; omega⟩)
    rw [Moment.le_iff_place] at least
    omega

theorem isLeast_reaching_iff : IsLeast (r.zone.reaching l) t ↔ ¬ r.SkippedLater l := by
  have reached := mem_reaching_of_reads lasting inside plain reads
  constructor
  · rintro ⟨_, first⟩ ⟨s, member, skipped, later⟩
    rw [isLeast_skipped_iff lasting inside plain reads member skipped] at later
    refine later ⟨⟨reached.1, (behind_of_reads lasting inside plain reads member skipped).2⟩, ?_⟩
    rintro x ⟨plainX, since⟩
    by_contra before
    have sooner := (mem_reaching_before_iff lasting inside plain reads plainX (not_le.1 before)).2
      ⟨s, member, skipped.2, since⟩
    exact before (first sooner)
  · intro notLater
    refine ⟨reached, ?_⟩
    intro x reachedX
    by_contra before
    obtain ⟨s, member, skips, since⟩ :=
      (mem_reaching_before_iff lasting inside plain reads reachedX.1 (not_le.1 before)).1 reachedX
    apply notLater
    refine ⟨s, member, ⟨plain, skips⟩, ?_⟩
    rw [isLeast_skipped_iff lasting inside plain reads member ⟨plain, skips⟩]
    rintro ⟨_, first⟩
    exact before (first ⟨reachedX.1, since⟩)

end Reading

/-! ## First instants of dates -/

theorem instantsOn_subset_reaching (cal : Calendar) (d : Date) :
    cal.instantsOn d ⊆ cal.zone.reaching (.midnight d) := by
  rintro x ⟨plain, date⟩
  simp only [Calendar.dateOf, bind_eq_ok_iff, pure_eq_ok_iff] at date
  obtain ⟨now, run, rfl⟩ := date
  refine ⟨plain, now, run, ?_⟩
  rw [Moment.le_iff_seconds rfl]
  simp only [Moment.midnight, Moment.date]
  omega

section Day
variable (lasting : r.Lasting) (narrow : r.Narrow) {d : Date} (inside : (Moment.midnight d).InsideBy 3)
  (reads : r.zone.ofLocal (.midnight d) = .ok t)
include lasting narrow inside reads

theorem mem_instantsOn_of_reaching (weekStart : Weekday) (reached : x ∈ r.zone.reaching (.midnight d)) (le : x ≤ t) :
    x ∈ (r.calendar weekStart).instantsOn d := by
  have plain : ¬ (Moment.midnight d).InLeapSecond := Moment.plain_of_whole rfl
  obtain ⟨place, _, insideT⟩ := place_of_reads inside plain reads
  have near := near_of_reaching reached
  have order := Moment.seconds_le le
  have insideX : x.InsideBy 1 := by rw [Moment.insideBy_def] at *; omega
  have low := ((mem_reaching_iff insideX).1 reached).2
  have high : r.shown x.place < (Moment.midnight d).place + 2000000000 * 86400 := by
    rcases lt_or_eq_of_le le with before | rfl
    · obtain ⟨s, member, skips, since⟩ :=
        (mem_reaching_before_iff lasting inside plain reads reached.1 before).1 reached
      rw [Moment.le_iff_place] at since
      rw [Moment.lt_iff_place, place, resolved_of_skips lasting member skips] at before
      have less := narrow.switch member
      rw [shown, aheadAt_of_skips lasting member skips since before]
      omega
    · rw [place]
      exact shown_resolved_lt lasting narrow _
  obtain ⟨e, date, exact⟩ := dateOf_spec r weekStart insideX
  have day := exact reached.1
  rw [midnight_place] at low high
  refine ⟨reached.1, ?_⟩
  rw [date, Date.day_injective (a := e) (b := d) (by unfold dayAt at day; omega)]

theorem isLeast_instantsOn_iff (weekStart : Weekday) :
    IsLeast ((r.calendar weekStart).instantsOn d) t ↔ IsLeast (r.zone.reaching (.midnight d)) t := by
  have reached := mem_reaching_of_reads lasting inside (Moment.plain_of_whole rfl) reads
  have subset := instantsOn_subset_reaching (r.calendar weekStart) d
  constructor
  · rintro ⟨_, first⟩
    refine ⟨reached, ?_⟩
    intro x reachedX
    by_contra before
    have le := le_of_lt (not_le.1 before)
    exact before (first (mem_instantsOn_of_reaching lasting narrow inside reads weekStart reachedX le))
  · rintro ⟨_, first⟩
    exact ⟨mem_instantsOn_of_reaching lasting narrow inside reads weekStart reached (le_refl t),
      fun x member => first (subset member)⟩

end Day

/-! ## Skipped times -/

/-- A local time is read as the first instant that has reached it unless a switch skips it
    later than others, and then by the clock from before the switch; the switch itself is its
    reading when the switch skips it first. So a day starts with its first instant unless its
    midnight is skipped later than other times. -/
theorem ofLocal_first_iff (lasting : r.Lasting) (narrow : r.Narrow) {l : WallTime} (inside : l.InsideBy 3)
    (plain : ¬ l.InLeapSecond) :
    ∃ t, r.zone.ofLocal l = .ok t ∧ (IsLeast (r.zone.reaching l) t ↔ ¬ r.SkippedLater l) ∧
      (∀ s ∈ r.switches, l ∈ s.skipped → l.plus (-s.before.seconds) = .ok t ∧
        (t = s.instant ↔ IsLeast s.skipped l ∧ ¬ s.instant.InLeapSecond)) ∧
      ∀ weekStart d, Moment.midnight d = l → (r.calendar weekStart).dayStart d = .ok t ∧
        (IsLeast ((r.calendar weekStart).instantsOn d) t ↔ ¬ r.SkippedLater l) := by
  obtain ⟨t, reads, _⟩ := ofLocal_spec r (inside.mono 2 (by decide)) plain
  have first := isLeast_reaching_iff lasting inside plain reads
  refine ⟨t, reads, first, ?_, ?_⟩
  · intro s member skipped
    obtain ⟨place, behind⟩ := behind_of_reads lasting inside plain reads member skipped
    have low := s.before.lower
    have high := s.before.upper
    obtain ⟨u, run, placeU, _⟩ := Moment.plus_inside (d := -s.before.seconds) inside plain (by omega) (by omega)
    have same : u = t := Moment.place_injective (by omega)
    refine ⟨same ▸ run, ?_⟩
    rw [isLeast_skipped_iff lasting inside plain reads member skipped]
    have plainT := (place_of_reads inside plain reads).2.1
    constructor
    · rintro rfl
      exact ⟨⟨⟨plainT, le_refl _⟩, fun x later => later.2⟩, plainT⟩
    · rintro ⟨⟨_, least⟩, plainS⟩
      exact le_antisymm (least ⟨plainS, le_refl _⟩) behind
  · rintro weekStart d rfl
    refine ⟨reads, ?_⟩
    rw [isLeast_instantsOn_iff lasting narrow inside reads, first]

/-- The clock of New York goes forward at seven in the morning of UTC on 10 March. -/
def springForward : Switch := newYork2024.switches.head (by decide)

/-- Half past two in the night of 10 March, half an hour into what that switch skips. -/
def skippedHalfHour : WallTime := (Moment.ofSeconds? 1710037800).get (by decide)

/-- Half past seven in the morning of UTC, half an hour after the switch. -/
def halfHourLate : Instant := (Moment.ofSeconds? 1710055800).get (by decide)

theorem skipped_skippedHalfHour : springForward ∈ newYork2024.switches ∧ skippedHalfHour ∈ springForward.skipped :=
  ⟨List.head_mem _, by decide, by decide⟩

theorem newYork2024_first_iff :
    newYork2024.zone.ofLocal skippedHalfHour = .ok halfHourLate ∧
      (IsLeast (newYork2024.zone.reaching skippedHalfHour) halfHourLate ↔ ¬ newYork2024.SkippedLater skippedHalfHour) ∧
      (halfHourLate = springForward.instant ↔ IsLeast springForward.skipped skippedHalfHour ∧
        ¬ springForward.instant.InLeapSecond) := by
  obtain ⟨t, reads, first, skips, _⟩ :=
    ofLocal_first_iff (regular_newYork2024 .day).lasting (regular_newYork2024 .day).narrow
      (l := skippedHalfHour) (by decide) (by decide)
  have late : newYork2024.zone.ofLocal skippedHalfHour = .ok halfHourLate := by decide +kernel
  obtain rfl := Except.ok.inj (reads.symm.trans late)
  exact ⟨reads, first, (skips _ skipped_skippedHalfHour.1 skipped_skippedHalfHour.2).2⟩

/-- The switch skips half past two, and behind it the clock shows three, but half past two is
    read as half an hour after the switch. -/
theorem newYork2024_readsLate :
    newYork2024.Lasting ∧ newYork2024.Narrow ∧ skippedHalfHour.InsideBy 3 ∧ ¬ skippedHalfHour.InLeapSecond ∧
      (springForward ∈ newYork2024.switches ∧ skippedHalfHour ∈ springForward.skipped) ∧
      newYork2024.zone.ofLocal skippedHalfHour = .ok halfHourLate ∧ halfHourLate ≠ springForward.instant ∧
      ¬ IsLeast (newYork2024.zone.reaching skippedHalfHour) halfHourLate := by
  refine ⟨by decide, by decide, by decide, by decide, skipped_skippedHalfHour, by decide +kernel, by decide, ?_⟩
  rintro ⟨_, first⟩
  have shows : newYork2024.zone.toLocal springForward.instant =
      .ok ((Moment.ofSeconds? 1710039600).get (by decide)) := by decide +kernel
  have least := first (show springForward.instant ∈ newYork2024.zone.reaching skippedHalfHour from
    ⟨by decide, _, shows, by decide⟩)
  exact absurd least (by decide)

end FixedRule

end BucketPlan
