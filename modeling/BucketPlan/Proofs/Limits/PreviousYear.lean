import BucketPlan.Proofs.Comparison.Resolved
import BucketPlan.Proofs.Limits.Period
import BucketPlan.Proofs.Limits.YearBack

namespace BucketPlan.Calendar

variable {cal : Calendar} {g : Granularity} {early late : Offset} {main : Period} {n : Nat}

/-- Twelve months before an instant its date lies in a bucket that is cut off. -/
def YearCutOff (cal : Calendar) (early : Offset) (g : Granularity) (t : Instant) : Prop :=
  ∃ d e, cal.dateOf t = .ok d ∧ d.shiftMonths? (-12) = some e ∧ ¬ early.Opens (cal.bucketDate g e)

/-- Only in the first two years the year before is cut off. -/
theorem YearCutOff.low {t : Instant} (cut : cal.YearCutOff early g t) : t.seconds < -3000000000000 := by
  obtain ⟨d, e, date, moved, beyond⟩ := cut
  have first := (Offset.not_opens_iff.1 beyond).2
  have near := dateOf_near date
  have back := cal.bucketDate_near g e
  have shift := Date.shiftMonths?_year.1 moved
  have days := yearShift_eq d.day
  unfold firstDay at first
  omega

theorem yearCutOff_iff {d : Date} {t : Instant} (date : cal.dateOf t = .ok d) {e : Date}
    (moved : d.shiftMonths? (-12) = some e) : cal.YearCutOff early g t ↔ ¬ early.Opens (cal.bucketDate g e) := by
  simp only [YearCutOff, date, Except.ok.injEq, exists_and_left, exists_eq_left', moved, Option.some.injEq]

theorem clockYearBefore_begins {d e : Date} {t : Instant} (begins : cal.BeginsAt g d t) :
    d.shiftMonths? (-12) = some e ↔ cal.clockYearBefore t = 86400 * e.day := by
  have clock := begins.clock
  have day : 86400 * d.day / 86400 = d.day := by omega
  rw [Date.shiftMonths?_year, clockYearBefore, clock, day]
  omega

theorem yearCutOff_of_overflow {d : Date} {t : Instant} (begins : cal.BeginsAt g d t)
    (first : firstSecond ≤ cal.clockYearBefore t) (below : cal.clockYearBefore t < firstSecond + early.seconds) :
    cal.YearCutOff early g t := by
  have low := begins.low
  have clock := begins.clock
  have upper := early.upper
  have days := yearShift_eq d.day
  have midnight : cal.clockYearBefore t = 86400 * (d.day - yearShift d.day) := by
    rw [clockYearBefore, clock, show 86400 * d.day / 86400 = d.day by omega]
    omega
  rw [midnight, firstSecond_eq] at first below
  obtain ⟨e, _, day⟩ := Date.ofDay?_inside (n := d.day - yearShift d.day) (by omega) (by unfold lastDay; omega)
  rw [yearCutOff_iff begins.dateOf (Date.shiftMonths?_year.2 day), Offset.not_opens_iff]
  have back := cal.bucketDate_day_le g e
  have least := (cal.bucketDate g e).first_le
  omega

/-- What is cut off a year before was shown by the clock. -/
theorem YearCutOff.first_le {d : Date} {t : Instant} (begins : cal.BeginsAt g d t) (cut : cal.YearCutOff early g t) :
    firstSecond ≤ cal.clockYearBefore t := by
  obtain ⟨_, e, date, moved, _⟩ := cut
  rw [begins.dateOf] at date
  cases date
  rw [(clockYearBefore_begins begins).1 moved, firstSecond_eq]
  have least := e.first_le
  omega

theorem cutOff_yearBefore_iff (settled : cal.zone.Settled early late) {d : Date} {t s : Instant}
    (begins : cal.BeginsAt g d t) (yearStart : cal.yearEarlier t = .ok (some s)) :
    cal.CutOff early g s ↔ cal.YearCutOff early g t := by
  have low := begins.low
  have clock := begins.clock
  have bounds := cal.clockYearBefore_bounds t
  obtain ⟨reached, wholeS, showsS, _, _, same⟩ := yearEarlier_of_some begins.shows begins.whole settled yearStart
  obtain ⟨e, date, exact⟩ := exists_dateOf showsS
  have midnight : cal.clockYearBefore t % 86400 = 0 := by
    unfold clockYearBefore
    omega
  have year : cal.clockYearBefore t = 86400 * e.day := by
    rw [exact wholeS, same (by omega)]
    omega
  rw [yearCutOff_iff begins.dateOf ((clockYearBefore_begins begins).2 year)]
  simp only [CutOff, date, Except.ok.injEq, exists_eq_left', and_iff_right_iff_imp]
  intro beyond
  cases byClock : g.unitSeconds? with
  | none => rfl
  | some unit =>
    -- The year before begins behind the first midnight, so it is not in the first day.
    have first := Offset.not_opens_iff.1 beyond
    rw [cal.bucketDate_byClock byClock] at first
    rw [year, firstSecond_eq] at reached
    omega

section Settled
variable (settled : cal.zone.Settled early late) (accepted : cal.Accepted g main n)
include settled accepted

section Within
variable {b : Instant} (shows : cal.zone.Shows b) (whole : b.nanos = 0) (after : main.start.seconds ≤ b.seconds)
include shows whole after

theorem not_cutOff_within : ¬ cal.CutOff early g b := by
  intro cut
  have low := cut.low
  unfold firstSecond at low
  obtain ⟨d, begins⟩ := accepted.begins (by omega)
  obtain ⟨_, e, date, beyond⟩ := cut.of_le settled after accepted.shown.start accepted.shown.wholeStart shows whole
  rw [begins.dateOf] at date
  cases date
  rw [begins.leads] at beyond
  exact beyond (begins.opens settled)

theorem start_le_floor (low : main.start.seconds < -3000000000000) (near : b.seconds < -2000000000000) {f : Instant}
    (floor : cal.floor g b = .ok f) : main.start.seconds ≤ f.seconds := by
  obtain ⟨d, begins⟩ := accepted.begins low
  have clock := begins.clock
  have upper := early.upper
  have clockS := settled.clock_early (t := main.start) (by omega)
  have clockB := settled.clock_early (t := b) (by omega)
  cases byClock : g.unitSeconds? with
  | none =>
    -- The period begins with the first date of a bucket, so no later date lies in an earlier one.
    obtain ⟨e, date, exact⟩ := exists_dateOf shows
    have day := exact whole
    have order := cal.bucketDate_le g (d := d) (e := e) (by omega)
    rw [begins.leads] at order
    have nearF := floor_near floor
    have clockF := floor_byDate_low settled byClock date (by omega) floor
    have clockE := settled.clock_early (t := f) (by omega)
    omega
  | some unit =>
    simp only [Calendar.floor, byClock, Except.ok.injEq] at floor
    have isUnit := Granularity.clockUnit byClock
    have seconds := clockFloor_low settled isUnit (t := b) (by omega)
    have least := main.start.first_le
    rw [floor, if_pos (by rcases isUnit with rfl | rfl <;> omega)] at seconds
    rcases isUnit with rfl | rfl <;> omega

end Within

theorem exists_last :
    ∃ last, cal.previous g main.stop = .ok (some last) ∧ last.nanos = 0 ∧ cal.zone.Shows last ∧
      main.start.seconds - 86400 * 36 < last.seconds ∧
      (main.start.seconds < -3000000000000 → main.start.seconds ≤ last.seconds ∧
        last.seconds < main.start.seconds + 86400 * 3810) := by
  have shown := accepted.shown
  have short := accepted.short
  have before := (Moment.lt_iff_seconds shown.wholeStop).1 shown.order
  obtain ⟨b, run, seconds, whole, shows⟩ := exists_before settled shown.start shown.stop shown.wholeStop before
  cases floor : cal.floor g b with
  | error e =>
    cases e
    have cut := (floor_overflow_iff settled shows).1 floor
    exact absurd cut (not_cutOff_within settled accepted shows whole (by omega))
  | ok last =>
    have near := floor_near floor
    refine ⟨last, ?_, floor_nanos floor, shows_floor settled shows floor, by omega, fun low => ⟨?_, by omega⟩⟩
    · simp only [previous, run, floor, bind, Except.bind, pure, Except.pure]
    · exact start_le_floor settled accepted shows whole (by omega) low (by omega) floor

theorem sound_yearBefore {last s l f stop : Instant} (wholeLast : last.nanos = 0) (showsLast : cal.zone.Shows last)
    (yearStart : cal.yearEarlier main.start = .ok (some s)) (yearLast : cal.yearEarlier last = .ok (some l))
    (floor : cal.floor g l = .ok f) (next : cal.next g f = .ok (some stop)) :
    cal.Sound s ∧ cal.Sound stop ∧ cal.Final stop := by
  obtain ⟨_, wholeS, showsS, _⟩ :=
    yearEarlier_of_some accepted.shown.start accepted.shown.wholeStart settled yearStart
  obtain ⟨_, _, showsL, _, far, _⟩ := yearEarlier_of_some showsLast wholeLast settled yearLast
  have bounds := cal.clockYearBefore_bounds last
  have top := showsLast.le_midnight
  have nearF := floor_near floor
  have nearStop := next_near next
  have inside : stop.seconds ≤ lastSecond - 86400 * 100 := by
    unfold lastDay at top
    unfold lastSecond
    omega
  have showsStop := shows_next settled (shows_floor settled showsL floor) next fun _ => by omega
  exact ⟨⟨showsS, fun _ => wholeS⟩, ⟨showsStop, fun _ => next_nanos next⟩, fun late => absurd late (by omega)⟩

/-- What is found for the year before is shown by the clock. -/
theorem shownPeriod_of_previousYear {p : Period} (run : cal.previousYear g main n = .ok p) : cal.ShownPeriod p := by
  simp only [previousYear, bind_eq_ok_iff, Overflow.monadLift_eq_ok_iff, orRefused_eq_ok_iff] at run
  obtain ⟨_, previous, last, rfl, _, yearStart, s, rfl, _, yearLast, l, rfl, f, floor, _, next, stop, rfl,
    normalized⟩ := run
  obtain ⟨_, again, wholeLast, showsLast, _⟩ := exists_last settled accepted
  rw [previous] at again
  cases again
  obtain ⟨soundS, soundStop, final⟩ :=
    sound_yearBefore settled accepted wholeLast showsLast yearStart yearLast floor next
  exact shownPeriod_of_normalize settled soundS soundStop final normalized

theorem previousYear_overflow_cases {last : Instant} (previous : cal.previous g main.stop = .ok (some last))
    (wholeLast : last.nanos = 0) (showsLast : cal.zone.Shows last) :
    cal.previousYear g main n = .error .overflow ↔
      cal.yearEarlier main.start = .error .outOfRange ∨
        ∃ s, cal.yearEarlier main.start = .ok (some s) ∧
          (cal.yearEarlier last = .error .outOfRange ∨
            ∃ l, cal.yearEarlier last = .ok (some l) ∧
              (cal.CutOff early g l ∨ ∃ f stop, cal.floor g l = .ok f ∧ cal.next g f = .ok (some stop) ∧
                s ≤ stop ∧ cal.CutOff early g s)) := by
  simp only [previousYear, previous, bind_eq_error_iff, Overflow.monadLift_eq_error_iff, Overflow.monadLift_eq_ok_iff,
    orRefused_ne_overflow, orRefused_eq_ok_iff, reduceCtorEq, false_or, Except.ok.injEq, Option.some.injEq,
    exists_eq_left']
  constructor
  · rintro (error | ⟨_, yearStart, s, rfl, error | ⟨_, yearLast, l, rfl, cut | ⟨f, floor, error |
      ⟨_, next, stop, rfl, error⟩⟩⟩⟩)
    · exact .inl error
    · exact .inr ⟨s, yearStart, .inl error⟩
    · obtain ⟨_, _, showsL, _⟩ := yearEarlier_of_some showsLast wholeLast settled yearLast
      exact .inr ⟨s, yearStart, .inr ⟨l, yearLast, .inl ((floor_overflow_iff settled showsL).1 cut)⟩⟩
    · obtain ⟨_, _, showsL, _⟩ := yearEarlier_of_some showsLast wholeLast settled yearLast
      obtain ⟨_, answer, _⟩ := exists_next settled g (shows_floor settled showsL floor)
      rw [answer] at error
      cases error
    · obtain ⟨soundS, soundStop, final⟩ :=
        sound_yearBefore settled accepted wholeLast showsLast yearStart yearLast floor next
      exact .inr ⟨s, yearStart, .inr ⟨l, yearLast, .inr ⟨f, stop, floor, next,
        (normalize_overflow_iff settled soundS soundStop final).1 error⟩⟩⟩
  · rintro (error | ⟨s, yearStart, error | ⟨l, yearLast, cut | ⟨f, stop, floor, next, cut⟩⟩⟩)
    · exact .inl error
    · exact .inr ⟨_, yearStart, s, rfl, .inl error⟩
    · obtain ⟨_, _, showsL, _⟩ := yearEarlier_of_some showsLast wholeLast settled yearLast
      exact .inr ⟨_, yearStart, s, rfl, .inr ⟨_, yearLast, l, rfl, .inl ((floor_overflow_iff settled showsL).2 cut)⟩⟩
    · obtain ⟨soundS, soundStop, final⟩ :=
        sound_yearBefore settled accepted wholeLast showsLast yearStart yearLast floor next
      exact .inr ⟨_, yearStart, s, rfl, .inr ⟨_, yearLast, l, rfl, .inr ⟨f, floor, .inr ⟨_, next, stop, rfl,
        (normalize_overflow_iff settled soundS soundStop final).2 cut⟩⟩⟩⟩

section Low
variable {d : Date} (begins : cal.BeginsAt g d main.start) (low : main.start.seconds < -3000000000000)
include begins low

theorem yearCutOff_of_previousYear (overflow : cal.previousYear g main n = .error .overflow) :
    cal.YearCutOff early g main.start := by
  have shown := accepted.shown
  obtain ⟨last, previous, wholeLast, showsLast, _, nearLast⟩ := exists_last settled accepted
  obtain ⟨after, near⟩ := nearLast low
  have order := clockYearBefore_begins_le settled begins after (by omega)
  rcases (previousYear_overflow_cases settled accepted previous wholeLast showsLast).1 overflow with
    overflowS | ⟨s, yearStart, overflowL | ⟨l, yearLast, cut⟩⟩
  · obtain ⟨first, below⟩ := (yearEarlier_overflow_iff shown.start shown.wholeStart settled).1 overflowS
    exact yearCutOff_of_overflow begins first below
  · -- The last bucket does not start before the first one.
    have below := ((yearEarlier_overflow_iff showsLast wholeLast settled).1 overflowL).2
    have reached := (yearEarlier_of_some shown.start shown.wholeStart settled yearStart).1
    omega
  · rw [← cutOff_yearBefore_iff settled begins yearStart]
    rcases cut with cut | ⟨_, _, _, _, _, cut⟩
    · have le := yearEarlier_begins_le showsLast wholeLast settled begins after (by omega) yearStart yearLast
      obtain ⟨_, wholeS, showsS, _⟩ := yearEarlier_of_some shown.start shown.wholeStart settled yearStart
      obtain ⟨_, wholeL, showsL, _⟩ := yearEarlier_of_some showsLast wholeLast settled yearLast
      exact cut.of_le settled le showsS wholeS showsL wholeL
    · exact cut

theorem previousYear_of_yearCutOff (cut : cal.YearCutOff early g main.start) :
    cal.previousYear g main n = .error .overflow := by
  have shown := accepted.shown
  obtain ⟨last, previous, wholeLast, showsLast, _, nearLast⟩ := exists_last settled accepted
  obtain ⟨after, near⟩ := nearLast low
  have order := clockYearBefore_begins_le settled begins after (by omega)
  have first := cut.first_le begins
  apply (previousYear_overflow_cases settled accepted previous wholeLast showsLast).2
  rcases Int.lt_or_le (cal.clockYearBefore main.start) (firstSecond + early.seconds) with below | reached
  · exact .inl (yearEarlier_overflow shown.start shown.wholeStart settled first below)
  · obtain ⟨s, yearStart, _⟩ := exists_yearEarlier shown.start shown.wholeStart settled first reached
    obtain ⟨l, yearLast, wholeL, showsL, _, farL, _⟩ :=
      exists_yearEarlier showsLast wholeLast settled (by omega) (by omega)
    refine .inr ⟨s, yearStart, .inr ⟨l, yearLast, ?_⟩⟩
    rw [← cutOff_yearBefore_iff settled begins yearStart] at cut
    cases floor : cal.floor g l with
    | error e =>
      cases e
      exact .inl ((floor_overflow_iff settled showsL).1 floor)
    | ok f =>
      have bounds := cal.clockYearBefore_bounds last
      have clock := cal.zone.clock_near last
      obtain ⟨stop, next, behind⟩ := exists_next_low settled cut.1 showsL wholeL (by omega) floor
      have le := yearEarlier_begins_le showsLast wholeLast settled begins after (by omega) yearStart yearLast
      refine .inr ⟨f, stop, rfl, next, le_of_lt ?_, cut⟩
      rw [Moment.lt_iff_seconds (next_nanos next)]
      omega

end Low

theorem previousYear_ne_overflow (far : -3000000000000 ≤ main.start.seconds) :
    cal.previousYear g main n ≠ .error .overflow := by
  have shown := accepted.shown
  have upper := early.upper
  obtain ⟨last, previous, wholeLast, showsLast, nearLast, _⟩ := exists_last settled accepted
  have boundsS := cal.clockYearBefore_bounds main.start
  have boundsL := cal.clockYearBefore_bounds last
  have clockS := cal.zone.clock_near main.start
  have clockL := cal.zone.clock_near last
  rw [ne_eq, previousYear_overflow_cases settled accepted previous wholeLast showsLast,
    yearEarlier_overflow_iff shown.start shown.wholeStart settled, yearEarlier_overflow_iff showsLast wholeLast settled]
  unfold firstSecond
  rintro (⟨_, below⟩ | ⟨s, yearStart, ⟨_, below⟩ | ⟨l, yearLast, cut | ⟨_, _, _, _, _, cut⟩⟩⟩)
  · omega
  · omega
  · obtain ⟨_, _, _, nearL, _⟩ := yearEarlier_of_some showsLast wholeLast settled yearLast
    have first := cut.low
    unfold firstSecond at first
    omega
  · obtain ⟨_, _, _, nearS, _⟩ := yearEarlier_of_some shown.start shown.wholeStart settled yearStart
    have first := cut.low
    unfold firstSecond at first
    omega

/-- The comparison with the year before overflows just where a bucket is cut off then. -/
theorem previousYear_overflow_iff :
    cal.previousYear g main n = .error .overflow ↔ cal.YearCutOff early g main.start := by
  by_cases low : main.start.seconds < -3000000000000
  · obtain ⟨d, begins⟩ := accepted.begins low
    exact ⟨yearCutOff_of_previousYear settled accepted begins low,
      previousYear_of_yearCutOff settled accepted begins low⟩
  · exact ⟨fun overflow => absurd overflow (previousYear_ne_overflow settled accepted (Int.not_lt.1 low)),
      fun cut => absurd cut.low low⟩

end Settled

end BucketPlan.Calendar
