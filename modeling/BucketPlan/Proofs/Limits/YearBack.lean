import BucketPlan.Proofs.Limits.WalkBack
import BucketPlan.Proofs.Date.YearBefore

namespace BucketPlan.Calendar

variable {cal : Calendar} {g : Granularity} {early late : Offset}

/-- The second that the clock showed twelve months before, by its date and time of day. -/
def clockYearBefore (cal : Calendar) (t : Instant) : Int :=
  cal.zone.clock t - 86400 * yearShift (cal.zone.clock t / 86400)

theorem clockYearBefore_bounds (cal : Calendar) (t : Instant) :
    cal.zone.clock t - 86400 * 366 ≤ cal.clockYearBefore t ∧
      cal.clockYearBefore t ≤ cal.zone.clock t - 86400 * 365 := by
  have days := yearShift_eq (cal.zone.clock t / 86400)
  unfold clockYearBefore
  omega

theorem clockYearBefore_le {s t : Instant} (midnight : cal.zone.clock s % 86400 = 0)
    (le : cal.zone.clock s ≤ cal.zone.clock t) : cal.clockYearBefore s ≤ cal.clockYearBefore t := by
  have daysS := yearShift_eq (cal.zone.clock s / 86400)
  have daysT := yearShift_eq (cal.zone.clock t / 86400)
  unfold clockYearBefore
  rcases Int.lt_or_le (cal.zone.clock s / 86400) (cal.zone.clock t / 86400) with later | same
  · omega
  · have day : cal.zone.clock t / 86400 = cal.zone.clock s / 86400 := by omega
    rw [day]
    omega

variable {t : Instant} (shows : cal.zone.Shows t) (whole : t.nanos = 0)
include shows whole

theorem yearEarlier_eq_none (below : cal.clockYearBefore t < firstSecond) : cal.yearEarlier t = .ok none := by
  obtain ⟨l, run, exact⟩ := Zone.toLocal_of_shows shows
  obtain ⟨seconds, _⟩ := exact (Moment.plain_of_whole whole)
  have none : l.shiftMonths? (-12) = none := by
    cases found : l.shiftMonths? (-12) with
    | none => rfl
    | some m =>
      have back := (Moment.shiftMonths?_year.1 found).1
      rw [seconds] at back
      exact absurd m.first_le (by unfold clockYearBefore at below; omega)
  simp only [yearEarlier, toLocal, run, Moment.moveMonths?_year, none, bind, Except.bind, pure, Except.pure]

theorem exists_localYearBefore (first : firstSecond ≤ cal.clockYearBefore t) :
    ∃ l m, cal.toLocal t = .ok l ∧ l.shiftMonths? (-12) = some m ∧ m.seconds = cal.clockYearBefore t ∧ m.nanos = 0 := by
  obtain ⟨l, run, exact⟩ := Zone.toLocal_of_shows shows
  obtain ⟨seconds, nanos⟩ := exact (Moment.plain_of_whole whole)
  have bounds := clockYearBefore_bounds cal t
  have top := shows.le_midnight
  have last : cal.clockYearBefore t ≤ lastSecond := by
    unfold lastSecond
    unfold lastDay at top
    omega
  let m : WallTime := ⟨cal.clockYearBefore t, 0, first, last, by decide, by simp⟩
  have moved : m.seconds = l.seconds - 86400 * yearShift (l.seconds / 86400) := by rw [seconds]; rfl
  exact ⟨l, m, run, Moment.shiftMonths?_year.2 ⟨moved, (nanos.trans whole).symm⟩, rfl, rfl⟩

section Settled
variable (settled : cal.zone.Settled early late)
include settled

/-- A year back overflows where the clock showed a representable second, but not yet at an instant. -/
theorem yearEarlier_overflow (first : firstSecond ≤ cal.clockYearBefore t)
    (below : cal.clockYearBefore t < firstSecond + early.seconds) : cal.yearEarlier t = .error .outOfRange := by
  obtain ⟨l, m, run, shifted, seconds, wholeM⟩ := exists_localYearBefore shows whole first
  have overflow := settled.ofLocal_overflow wholeM (seconds ▸ below)
  simp only [yearEarlier, run, Moment.moveMonths?_year, shifted, ofLocal, overflow, bind, Except.bind]

/-- The instant a year earlier is shown by the clock; in the first years it shows the same time then. -/
theorem exists_yearEarlier (first : firstSecond ≤ cal.clockYearBefore t)
    (reached : firstSecond + early.seconds ≤ cal.clockYearBefore t) :
    ∃ e, cal.yearEarlier t = .ok (some e) ∧ e.nanos = 0 ∧ cal.zone.Shows e ∧
      cal.clockYearBefore t - 86400 < e.seconds ∧ e.seconds < cal.clockYearBefore t + 86400 ∧
      (cal.clockYearBefore t < -1100000000000 → cal.zone.clock e = cal.clockYearBefore t) := by
  obtain ⟨l, m, run, shifted, seconds, wholeM⟩ := exists_localYearBefore shows whole first
  have bounds := clockYearBefore_bounds cal t
  have top := shows.le_midnight
  rw [← seconds] at reached bounds ⊢
  obtain ⟨e, read, wholeE, showsE, near, far, exact⟩ := settled.ofLocal_of_le wholeM reached (by omega)
  refine ⟨e, ?_, wholeE, showsE, near, far, fun before => exact (.inl before)⟩
  simp only [yearEarlier, run, Moment.moveMonths?_year, shifted, ofLocal, read, bind, Except.bind, pure,
    Except.pure]

theorem yearEarlier_overflow_iff :
    cal.yearEarlier t = .error .outOfRange ↔
      firstSecond ≤ cal.clockYearBefore t ∧ cal.clockYearBefore t < firstSecond + early.seconds := by
  refine ⟨?_, fun between => yearEarlier_overflow shows whole settled between.1 between.2⟩
  intro overflow
  rcases Int.lt_or_le (cal.clockYearBefore t) firstSecond with below | first
  · rw [yearEarlier_eq_none shows whole below] at overflow
    cases overflow
  · refine ⟨first, ?_⟩
    by_contra reached
    obtain ⟨_, run, _⟩ := exists_yearEarlier shows whole settled first (Int.not_lt.1 reached)
    rw [overflow] at run
    cases run

theorem yearEarlier_of_some {e : Instant} (run : cal.yearEarlier t = .ok (some e)) :
    firstSecond + early.seconds ≤ cal.clockYearBefore t ∧ e.nanos = 0 ∧ cal.zone.Shows e ∧
      cal.clockYearBefore t - 86400 < e.seconds ∧ e.seconds < cal.clockYearBefore t + 86400 ∧
      (cal.clockYearBefore t < -1100000000000 → cal.zone.clock e = cal.clockYearBefore t) := by
  rcases Int.lt_or_le (cal.clockYearBefore t) firstSecond with below | first
  · rw [yearEarlier_eq_none shows whole below] at run
    cases run
  · rcases Int.lt_or_le (cal.clockYearBefore t) (firstSecond + early.seconds) with below | reached
    · rw [yearEarlier_overflow shows whole settled first below] at run
      cases run
    · obtain ⟨x, again, known⟩ := exists_yearEarlier shows whole settled first reached
      rw [run] at again
      cases again
      exact ⟨reached, known⟩

end Settled

omit shows whole in
theorem clockYearBefore_begins_le (settled : cal.zone.Settled early late) {d : Date} {s : Instant}
    (begins : cal.BeginsAt g d s) (le : s.seconds ≤ t.seconds) (low : t.seconds < -1000000000000) :
    cal.clockYearBefore s ≤ cal.clockYearBefore t := by
  have clock := begins.clock
  have clockS := settled.clock_early (t := s) (by omega)
  have clockT := settled.clock_early low
  exact clockYearBefore_le (by omega) (by omega)

theorem yearEarlier_begins_le (settled : cal.zone.Settled early late) {d : Date} {s a b : Instant}
    (begins : cal.BeginsAt g d s) (le : s.seconds ≤ t.seconds) (low : t.seconds < -1200000000000)
    (yearS : cal.yearEarlier s = .ok (some a)) (yearT : cal.yearEarlier t = .ok (some b)) : a.seconds ≤ b.seconds := by
  have order := clockYearBefore_begins_le settled begins le (by omega)
  have bounds := cal.clockYearBefore_bounds t
  have clock := cal.zone.clock_near t
  obtain ⟨_, _, _, _, farA, sameA⟩ := yearEarlier_of_some begins.shows begins.whole settled yearS
  obtain ⟨_, _, _, _, farB, sameB⟩ := yearEarlier_of_some shows whole settled yearT
  have clockA := settled.clock_early (t := a) (by omega)
  have clockB := settled.clock_early (t := b) (by omega)
  have exactA := sameA (by omega)
  have exactB := sameB (by omega)
  omega

end BucketPlan.Calendar
