import BucketPlan.Proofs.Limits.Period
import BucketPlan.Proofs.Moment.Written
import BucketPlan.Service.App
import Mathlib.Control.Traversable.Instances

namespace BucketPlan

/-- The text of a bound is the first date of all. -/
def NamesFirstDate (raw : Option String) : Prop :=
  ∃ text d, raw = some text ∧ Date.read? (Blank.trim text.toList) = some d ∧ d.day = firstDay

namespace Calendar

/-- The end of a selection: it bounds one, and by the clock the first day is over. -/
structure Ending (cal : Calendar) (t : Instant) : Prop extends cal.Bounding t where
  behind : firstSecond + 86400 ≤ cal.zone.clock t

variable {cal : Calendar} {early late : Offset}

theorem Ending.of_near {t : Instant} (low : -1000000000000 ≤ t.seconds) (high : t.seconds ≤ 1000000000000) :
    cal.Ending t := by
  have clock := cal.zone.clock_near t
  have close : ¬ t.Remote := by unfold Moment.Remote; omega
  refine ⟨⟨⟨cal.zone.shows_of_inside ?_, fun remote => absurd remote close⟩, fun remote => absurd remote close⟩, ?_⟩
  · rw [Moment.insideBy_def]
    omega
  · unfold firstSecond
    omega

section Settled
variable (settled : cal.zone.Settled early late)
include settled

/-! ## Dates -/

theorem bounding_of_dayStart {d : Date} {t : Instant} (run : cal.dayStart d = .ok t) :
    cal.Bounding t ∧ (firstDay < d.day → cal.Ending t) := by
  have near := dayStart_near run
  have clock := cal.zone.clock_near t
  have opens : early.Opens d := by
    by_contra beyond
    rw [(dayStart_overflow_iff settled).2 beyond] at run
    cases run
  obtain ⟨s, again, whole, shows, exact⟩ := exists_dayStart settled opens
  rw [run] at again
  cases again
  have bounding : cal.Bounding t := by
    refine ⟨⟨shows, fun _ => whole⟩, fun remote => ?_⟩
    rw [exact (by unfold Moment.Remote at remote; omega)]
    omega
  refine ⟨bounding, fun later => ⟨bounding, ?_⟩⟩
  by_cases far : 86400 * d.day < -1100000000000 ∨ 1100000000000 < 86400 * d.day
  · rw [exact far, firstSecond_eq]
    omega
  · unfold firstSecond
    omega

theorem exists_dayEnd (d : Date) : ∃ t, cal.dayEnd d = .ok t ∧ cal.Ending t := by
  have first := d.first_le
  have later : firstDay < ((d.addDays? 1).getD d).day := by
    cases following : d.addDays? 1 with
    | some n =>
      have day := Date.ofDay?_eq_some_iff.1 following
      rw [Option.getD_some, day]
      omega
    | none =>
      have outside := Date.ofDay?_eq_none_iff.1 following
      rw [Option.getD_none]
      unfold firstDay at first outside ⊢
      unfold lastDay at outside
      omega
  obtain ⟨t, run, _⟩ := exists_dayStart settled (d := (d.addDays? 1).getD d) (.inr later)
  exact ⟨t, run, (bounding_of_dayStart settled run).2 later⟩

/-! ## Texts -/

section Texts
variable {field : DateField} {raw : String}

/-- A text that is no instant is refused, so only the first date of all overflows, and only as a
    start, where the clock is ahead of UTC. -/
theorem readBound_overflow_iff {bound : Bound} :
    cal.readBound field bound raw = .error .overflow ↔
      bound = .start ∧ 0 < early.seconds ∧ NamesFirstDate (some raw) := by
  simp only [readBound, NamesFirstDate, Option.some.injEq, exists_and_left, exists_eq_left']
  cases plain : Date.read? (Blank.trim raw.toList) with
  | some d =>
    simp only [Option.some.injEq, exists_eq_left', ← Offset.not_opens_iff, ← dayStart_overflow_iff settled,
      Overflow.lift_eq_overflow_iff]
    cases bound with
    | start => simp [Bound.ofDate]
    | stop =>
      obtain ⟨t, run, _⟩ := exists_dayEnd settled d
      simp [Bound.ofDate, run]
  | none => cases Moment.readIso? (Blank.trim raw.toList) <;> simp

theorem bounding_of_readBound {bound : Bound} {t : Instant} (run : cal.readBound field bound raw = .ok t) :
    cal.Bounding t ∧ (bound = .stop → cal.Ending t) := by
  simp only [readBound] at run
  split at run
  · next d _ =>
    cases bound with
    | start => exact ⟨(bounding_of_dayStart settled (Overflow.lift_eq_ok_iff.1 run)).1, by simp⟩
    | stop =>
      obtain ⟨s, ends, ending⟩ := exists_dayEnd settled d
      have again := Overflow.lift_eq_ok_iff.1 run
      rw [Bound.ofDate, ends] at again
      cases again
      exact ⟨ending.toBounding, fun _ => ending⟩
  · split at run
    · next found =>
      cases run
      have near := Moment.readIso?_near found
      have ending : cal.Ending t := Ending.of_near (by omega) (by omega)
      exact ⟨ending.toBounding, fun _ => ending⟩
    · cases run

theorem readBound?_overflow_iff {bound : Bound} {raw : Option String} :
    cal.readBound? field bound raw = .error .overflow ↔ bound = .start ∧ 0 < early.seconds ∧ NamesFirstDate raw := by
  cases raw with
  | none => simp [readBound?, Option.mapM, NamesFirstDate, pure, Except.pure]
  | some text => rw [readBound?, Option.mapM, map_eq_error_iff, readBound_overflow_iff settled]

theorem bounding_of_readBound? {bound : Bound} {raw : Option String} {t : Instant}
    (run : cal.readBound? field bound raw = .ok (some t)) : cal.Bounding t := by
  cases raw with
  | none => cases run
  | some text =>
    obtain ⟨_, read, same⟩ := map_eq_ok_iff.1 run
    cases same
    exact (bounding_of_readBound settled read).1

end Texts

/-! ## Selections -/

section Selections
variable {now : Instant} {today : Date} {lookback : Nat} {start stop : Option String}

/-- The start of a selection, or that of the date that many days before today. -/
def selectedStart (cal : Calendar) (today : Date) (lookback : Nat) : Option String → Except Failure Instant
  | some raw => cal.readBound .startDate .start raw
  | none => Overflow.lift (daysBefore today lookback >>= cal.dayStart)

/-- The end of a selection, or that of today. -/
def selectedStop (cal : Calendar) (today : Date) : Option String → Except Failure Instant
  | some raw => cal.readBound .endDate .stop raw
  | none => Overflow.lift (cal.dayEnd today)

omit settled in
theorem readSelection_eq (date : cal.dateOf now = .ok today) :
    cal.readSelection now lookback start stop = do
      return (← cal.selectedStart today lookback start, ← cal.selectedStop today stop) := by
  have found : (liftM (cal.dateOf now) : Except Failure Date) = .ok today := Overflow.monadLift_eq_ok_iff.2 date
  simp only [readSelection, found, bind, Except.bind]
  cases start with
  | none =>
    simp only [readBound?, Option.mapM, selectedStart, bind, Except.bind, pure, Except.pure]
    cases daysBefore today lookback with
    | error e => rfl
    | ok since =>
      simp only [Overflow.lift, liftM, monadLift, MonadLift.monadLift]
      cases cal.dayStart since with
      | error e => rfl
      | ok a =>
        cases stop with
        | none => rfl
        | some raw => cases run : cal.readBound .endDate .stop raw <;> simp [selectedStop, run, Functor.map, Except.map]
  | some raw =>
    simp only [readBound?, Option.mapM, selectedStart, Functor.map, Except.map, pure, Except.pure]
    cases cal.readBound .startDate .start raw with
    | error e => rfl
    | ok a =>
      cases stop with
      | none => rfl
      | some raw => cases run : cal.readBound .endDate .stop raw <;> simp [selectedStop, run]

theorem selectedStart_overflow_iff (room : firstDay + lookback < today.day) :
    cal.selectedStart today lookback start = .error .overflow ↔ 0 < early.seconds ∧ NamesFirstDate start := by
  cases start with
  | some raw => simp [selectedStart, readBound_overflow_iff settled]
  | none =>
    have last := today.le_last
    obtain ⟨since, found, day⟩ := Date.ofDay?_inside (n := today.day + -(lookback : Int)) (by omega) (by omega)
    have before : daysBefore today lookback = .ok since := orOverflow_eq_ok_iff.2 found
    obtain ⟨t, run, _⟩ := exists_dayStart settled (d := since) (.inr (by omega))
    simp [selectedStart, before, run, NamesFirstDate, bind, Except.bind, Overflow.lift]

theorem bounding_of_selectedStart {t : Instant} (run : cal.selectedStart today lookback start = .ok t) :
    cal.Bounding t := by
  cases start with
  | some raw => exact (bounding_of_readBound settled run).1
  | none =>
    obtain ⟨since, _, dawns⟩ := bind_eq_ok_iff.1 (Overflow.lift_eq_ok_iff.1 run)
    exact (bounding_of_dayStart settled dawns).1

theorem selectedStop_ne_overflow : cal.selectedStop today stop ≠ .error .overflow := by
  cases stop with
  | some raw => simp [selectedStop, readBound_overflow_iff settled]
  | none =>
    obtain ⟨t, run, _⟩ := exists_dayEnd settled today
    simp [selectedStop, run, Overflow.lift]

theorem ending_of_selectedStop {t : Instant} (run : cal.selectedStop today stop = .ok t) : cal.Ending t := by
  cases stop with
  | some raw => exact (bounding_of_readBound settled run).2 rfl
  | none =>
    obtain ⟨s, ends, ending⟩ := exists_dayEnd settled today
    rw [selectedStop, ends] at run
    cases run
    exact ending

variable (inside : now.InsideBy 400) (few : lookback ≤ 365)
include inside few

/-- The selection of a request overflows just where it starts with the first date of all, by a
    clock that is ahead of UTC. -/
theorem readSelection_overflow_iff :
    cal.readSelection now lookback start stop = .error .overflow ↔ 0 < early.seconds ∧ NamesFirstDate start := by
  obtain ⟨today, date, _⟩ := exists_dateOf (cal.zone.shows_of_inside (inside.mono 2 (by decide)))
  have near := dateOf_near date
  rw [Moment.insideBy_def] at inside
  simp only [readSelection_eq date, bind_eq_error_iff, selectedStop_ne_overflow settled, pure_ne_error, and_false,
    exists_false, or_false]
  exact selectedStart_overflow_iff settled (by unfold firstDay; omega)

omit few in
theorem bounds_of_readSelection {a b : Instant} (run : cal.readSelection now lookback start stop = .ok (a, b)) :
    cal.Bounding a ∧ cal.Ending b := by
  obtain ⟨today, date, _⟩ := exists_dateOf (cal.zone.shows_of_inside (inside.mono 2 (by decide)))
  simp only [readSelection_eq date, bind_eq_ok_iff, pure_eq_ok_iff, Prod.mk.injEq] at run
  obtain ⟨_, starts, _, stops, rfl, rfl⟩ := run
  exact ⟨bounding_of_selectedStart settled starts, ending_of_selectedStop settled stops⟩

end Selections

/-! ## Dates of a selection -/

/-- The dates that a selection touches can be told. -/
theorem exists_dateSpan {a b : Instant} (bounding : cal.Bounding a) (ending : cal.Ending b) :
    ∃ span, cal.dateSpan a b = .ok span := by
  have last := b.le_last
  have clock := cal.zone.clock_near b
  have behind := ending.behind
  obtain ⟨c, run⟩ := Moment.exists_addSeconds? (m := b) (d := -1) (by omega) (by omega) fun _ => by omega
  have near := Moment.addSeconds?_near run
  have shows : cal.zone.Shows c := by
    refine ⟨?_, settled.clock_le_midnight ending.shows.le_midnight (by omega)⟩
    by_cases low : b.seconds < -2000000000000
    · have whole : ¬ b.InLeapSecond := Moment.plain_of_whole (ending.whole (.inl low))
      have seconds := ((Moment.addSeconds?_eq_some_iff (Nat.lt_of_not_le whole)).1 run).1
      have clockB := settled.clock_early (t := b) (by omega)
      have clockC := settled.clock_early (t := c) (by omega)
      omega
    · have clockC := cal.zone.clock_near c
      unfold firstSecond
      omega
  have latest : cal.zone.Shows (Moment.latest c a) := by
    unfold Moment.latest
    split
    · exact bounding.shows
    · exact shows
  obtain ⟨first, dateFirst, _⟩ := exists_dateOf bounding.shows
  obtain ⟨final, dateFinal, _⟩ := exists_dateOf latest
  have before : b.plus (-1) = .ok c := Moment.plus_eq_ok_iff.2 run
  exact ⟨(first, final), by simp only [dateSpan, before, dateFirst, dateFinal, bind, Except.bind, pure, Except.pure]⟩

end Settled

end Calendar

end BucketPlan
