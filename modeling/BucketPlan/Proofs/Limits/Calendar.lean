import BucketPlan.Proofs.Limits.FirstDates
import BucketPlan.Proofs.Zone.Settled

/-!
Over a settled zone only one thing takes the floors and next boundaries of what the
clock shows out of the representable years: a first date that a clock ahead of UTC
begins before the first second (`Offset.Opens`). So a floor overflows just where a
bucket is cut off in this way (`floor_overflow_iff`), a ceiling too
(`ceil_overflow_iff`), and a next boundary never (`exists_next`); all their answers are
shown by the clock again. In the first years the answers are known to the second
(`floor_byDate_low`, `clockFloor_low`, `next_byClock_low`).
-/

namespace BucketPlan

/-- A clock with this offset does not begin the date before the first second. -/
def Offset.Opens (o : Offset) (d : Date) : Prop := o.seconds ≤ 0 ∨ firstDay < d.day

instance (o : Offset) (d : Date) : Decidable (o.Opens d) := inferInstanceAs (Decidable (_ ∨ _))

theorem Offset.not_opens_iff {o : Offset} {d : Date} : ¬ o.Opens d ↔ 0 < o.seconds ∧ d.day = firstDay := by
  have first := d.first_le
  unfold Opens
  omega

namespace Calendar

variable {cal : Calendar} {g : Granularity} {t : Instant}

/-! ## Local dates -/

/-- What the clock shows lies on a date. -/
theorem exists_dateOf (shows : cal.zone.Shows t) :
    ∃ d, cal.dateOf t = .ok d ∧ (t.nanos = 0 → d.day = cal.zone.clock t / 86400) := by
  obtain ⟨l, run, exact⟩ := Zone.toLocal_of_shows shows
  refine ⟨l.date, ?_, ?_⟩
  · simp only [dateOf, toLocal, run, bind, Except.bind, pure, Except.pure]
  · intro whole
    rw [← (exact (Moment.plain_of_whole whole)).1]
    rfl

theorem dateOf_overflow (whole : t.nanos = 0) (below : cal.zone.clock t < firstSecond) :
    cal.dateOf t = .error .outOfRange := by
  simp only [dateOf, toLocal, Zone.toLocal_overflow (Moment.plain_of_whole whole) below, bind, Except.bind]

/-- The bucket of the instant is cut off: its first date begins before the first second. -/
def CutOff (cal : Calendar) (early : Offset) (g : Granularity) (t : Instant) : Prop :=
  g.unitSeconds? = none ∧ ∃ d, cal.dateOf t = .ok d ∧ ¬ early.Opens (cal.bucketDate g d)

/-- Only in the first days a bucket is cut off. -/
theorem CutOff.low {early : Offset} (cut : cal.CutOff early g t) : t.seconds < firstSecond + 86400 * 33 := by
  obtain ⟨_, d, date, beyond⟩ := cut
  have near := dateOf_near date
  have back := cal.bucketDate_near g d
  have first := (Offset.not_opens_iff.1 beyond).2
  unfold firstSecond
  unfold firstDay at first
  omega

section Settled
variable {early late : Offset} (settled : cal.zone.Settled early late)
include settled

/-! ## First instants of dates -/

/-- A date that opens has a first instant, which the clock shows; at either end it shows
    midnight there. -/
theorem exists_dayStart {d : Date} (opens : early.Opens d) :
    ∃ t, cal.dayStart d = .ok t ∧ t.nanos = 0 ∧ cal.zone.Shows t ∧
      (86400 * d.day < -1100000000000 ∨ 1100000000000 < 86400 * d.day → cal.zone.clock t = 86400 * d.day) := by
  have upper := early.upper
  have first := d.first_le
  have last := d.le_last
  have seconds : (Moment.midnight d).seconds = 86400 * d.day := Int.mul_comm _ _
  obtain ⟨t, run, whole, shows, _, _, exact⟩ := settled.ofLocal_of_le (l := .midnight d) rfl
    (by rw [seconds, firstSecond_eq]; unfold Offset.Opens at opens; omega) (by rw [seconds]; omega)
  rw [seconds] at exact
  exact ⟨t, run, whole, shows, exact⟩

theorem dayStart_overflow_iff {d : Date} : cal.dayStart d = .error .outOfRange ↔ ¬ early.Opens d := by
  constructor
  · intro error opens
    obtain ⟨t, run, _⟩ := exists_dayStart settled opens
    rw [error] at run
    cases run
  · intro beyond
    obtain ⟨ahead, first⟩ := Offset.not_opens_iff.1 beyond
    apply settled.ofLocal_overflow rfl
    simp only [Moment.midnight, first, firstSecond_eq]
    omega

/-! ## Floors by the clock -/

theorem shows_alignDown {unit : Nat} (isUnit : ClockUnit unit) (passes : Nat) {t : Instant}
    (shows : cal.zone.Shows t) : cal.zone.Shows (alignDown cal.zone unit passes t) := by
  induction passes generalizing t with
  | zero => exact shows
  | succ passes ih =>
    unfold alignDown
    simp only
    split
    · exact shows
    · split
      · next earlier found =>
        apply ih
        have seconds := (Moment.ofSeconds?_eq_some_iff.1 found).1
        have beyond : (t.seconds + (cal.zone.offsetAt t).seconds) % (unit : Int) = cal.zone.clock t % unit := rfl
        rw [beyond] at seconds
        have le : earlier.seconds ≤ t.seconds := by rcases isUnit with rfl | rfl <;> omega
        refine ⟨?_, settled.clock_le_midnight shows.le_midnight le⟩
        -- In the first years the clock goes down to a whole unit, and the first second is one.
        have first := shows.first_le
        have near := cal.zone.clock_near earlier
        unfold firstSecond at first ⊢
        rcases Int.lt_or_le t.seconds (-1000000000000) with before | after
        · have clockT := settled.clock_early before
          have clockE := settled.clock_early (t := earlier) (by omega)
          rcases isUnit with rfl | rfl <;> omega
        · rcases isUnit with rfl | rfl <;> omega
      · exact shows

theorem shows_truncate (shows : cal.zone.Shows t) : cal.zone.Shows t.truncate :=
  settled.shows_between shows shows (Int.le_refl t.seconds) (Int.le_refl t.seconds)

theorem shows_clockFloor {unit : Nat} (isUnit : ClockUnit unit) (shows : cal.zone.Shows t) :
    cal.zone.Shows (cal.clockFloor unit t) :=
  shows_alignDown settled isUnit 4 (shows_truncate settled shows)

omit settled in
/-- Where the clock shows a whole unit the floor stays. -/
theorem clockFloor_of_onUnit {unit : Nat} (whole : t.nanos = 0) (on : cal.zone.clock t % unit = 0) :
    cal.clockFloor unit t = t := by
  have same : t.truncate = t := Moment.ext_parts rfl whole.symm
  have still : (t.seconds + (cal.zone.offsetAt t).seconds) % (unit : Int) = 0 := on
  simp only [clockFloor, same, alignDown, still, if_true]

omit settled in
/-- Where the clock kept its offset, the floor is where it last showed a whole unit, if that is
    representable, and else the second itself. -/
theorem clockFloor_of_kept {unit : Nat} (positive : 0 < unit)
    (kept : ∀ e : Instant, e.nanos = 0 → t.seconds - cal.zone.clock t % unit ≤ e.seconds → e.seconds ≤ t.seconds →
      cal.zone.offsetAt e = cal.zone.offsetAt t) :
    (cal.clockFloor unit t).seconds =
      if firstSecond ≤ t.seconds - cal.zone.clock t % unit then t.seconds - cal.zone.clock t % unit else t.seconds := by
  have low := Int.emod_nonneg (cal.zone.clock t) (b := unit) (by omega)
  have last := t.le_last
  have same : t.truncate.seconds = t.seconds := rfl
  have beyond : (t.truncate.seconds + (cal.zone.offsetAt t.truncate).seconds) % (unit : Int) =
      cal.zone.clock t % unit := by
    rw [kept t.truncate rfl (by omega) (by omega)]
    rfl
  by_cases on : cal.zone.clock t % unit = 0
  · simp only [clockFloor, alignDown, beyond, on, if_true, Int.sub_zero, ite_self]
    rfl
  · split
    · next representable =>
      let earlier : Instant := ⟨t.seconds - cal.zone.clock t % unit, 0, representable, by omega, by decide, by simp⟩
      have seconds : earlier.seconds = t.seconds - cal.zone.clock t % unit := rfl
      have found : Moment.ofSeconds? (t.truncate.seconds - cal.zone.clock t % unit) = some earlier :=
        Moment.ofSeconds?_eq_some_iff.2 ⟨rfl, rfl⟩
      have still : (earlier.seconds + (cal.zone.offsetAt earlier).seconds) % (unit : Int) = 0 := by
        have parts := Int.mul_ediv_add_emod (cal.zone.clock t) unit
        have clock : cal.zone.clock t = t.seconds + (cal.zone.offsetAt t).seconds := rfl
        have whole : earlier.seconds + (cal.zone.offsetAt t).seconds = unit * (cal.zone.clock t / unit) := by omega
        rw [kept earlier rfl (by omega) (by omega), whole, Int.mul_emod_right]
      simp only [clockFloor, alignDown, beyond, on, if_false, found, still, if_true]
      rfl
    · next unrepresentable =>
      have none : Moment.ofSeconds? (t.truncate.seconds - cal.zone.clock t % unit) = none := by
        cases found : Moment.ofSeconds? (t.truncate.seconds - cal.zone.clock t % unit) with
        | none => rfl
        | some m =>
          have seconds := (Moment.ofSeconds?_eq_some_iff.1 found).1
          exact absurd m.first_le (by omega)
      simp only [clockFloor, alignDown, beyond, on, if_false, none]
      rfl

/-- In the first years the floor is where the clock last showed a whole unit, if that is
    representable, and else the instant itself. -/
theorem clockFloor_low {unit : Nat} (isUnit : ClockUnit unit) (before : t.seconds < -1000000000000) :
    (cal.clockFloor unit t).seconds =
      if firstSecond ≤ t.seconds - cal.zone.clock t % unit then t.seconds - cal.zone.clock t % unit else t.seconds := by
  apply clockFloor_of_kept isUnit.bounds.1
  intro e _ _ le
  rw [settled.early_at before, settled.early_at (by omega)]

/-! ## Floors -/

/-- A floor overflows just where a bucket is cut off. -/
theorem floor_overflow_iff (shows : cal.zone.Shows t) :
    cal.floor g t = .error .outOfRange ↔ cal.CutOff early g t := by
  obtain ⟨d, date, _⟩ := exists_dateOf shows
  unfold floor CutOff
  cases cut : g.unitSeconds? with
  | some unit => simp
  | none => simp [date, bind, Except.bind, dayStart_overflow_iff settled]

theorem shows_floor {f : Instant} (shows : cal.zone.Shows t) (run : cal.floor g t = .ok f) : cal.zone.Shows f := by
  unfold floor at run
  split at run
  · next unit byClock =>
    cases run
    exact shows_clockFloor settled (Granularity.clockUnit byClock) shows
  · obtain ⟨d, _, run⟩ := bind_eq_ok_iff.1 run
    by_cases opens : early.Opens (cal.bucketDate g d)
    · obtain ⟨s, dawns, _, showsS, _⟩ := exists_dayStart settled opens
      rw [run] at dawns
      cases dawns
      exact showsS
    · rw [(dayStart_overflow_iff settled).2 opens] at run
      cases run

/-- In the first years the floor is where the clock shows the first date of the bucket. -/
theorem floor_byDate_low (byDate : g.unitSeconds? = none) {d : Date} {f : Instant} (date : cal.dateOf t = .ok d)
    (before : 86400 * d.day < -1100000000000) (run : cal.floor g t = .ok f) :
    cal.zone.clock f = 86400 * (cal.bucketDate g d).day := by
  have back := cal.bucketDate_day_le g d
  simp only [floor, byDate, date, bind, Except.bind] at run
  by_cases opens : early.Opens (cal.bucketDate g d)
  · obtain ⟨s, dawns, _, _, exact⟩ := exists_dayStart settled opens
    rw [run] at dawns
    cases dawns
    exact exact (.inl (by omega))
  · rw [(dayStart_overflow_iff settled).2 opens] at run
    cases run

/-! ## Next boundaries and ceilings -/

/-- From what the clock shows there is an answer about the next boundary. -/
theorem exists_next (g : Granularity) (shows : cal.zone.Shows t) :
    ∃ a, cal.next g t = .ok a ∧ (g.unitSeconds? = none → ∀ n, a = some n → cal.zone.Shows n) := by
  obtain ⟨d, date, _⟩ := exists_dateOf shows
  unfold next
  cases g.unitSeconds? with
  | some unit => exact ⟨_, rfl, by simp⟩
  | none =>
    simp only [date, bind, Except.bind, pure, Except.pure]
    cases found : nextDate? g d with
    | none => exact ⟨none, rfl, by simp⟩
    | some n =>
      have first := d.first_le
      have later := (nextDate?_near found).1
      obtain ⟨s, dawns, _, showsS, _⟩ := exists_dayStart settled (d := n) (.inr (by omega))
      simp only [dawns]
      exact ⟨some s, rfl, by rintro _ _ ⟨⟩; exact showsS⟩

theorem shows_next {n : Instant} (shows : cal.zone.Shows t) (run : cal.next g t = .ok (some n))
    (room : g.unitSeconds? ≠ none → n.seconds ≤ lastSecond - 86400 * 2) : cal.zone.Shows n := by
  obtain ⟨_, again, byDate⟩ := exists_next settled g shows
  rw [run] at again
  cases again
  cases cut : g.unitSeconds? with
  | none => exact byDate cut n rfl
  | some unit =>
    have later : t < n := by
      simp only [next, cut] at run
      exact (clockNext?_spec (Except.ok.inj run)).2
    have le := Moment.seconds_le (le_of_lt later)
    have near := cal.zone.clock_near n
    have inside := room (by simp [cut])
    refine ⟨settled.first_le_clock shows.first_le le, ?_⟩
    unfold lastSecond at inside
    unfold lastDay
    omega

theorem exists_next_low (byDate : g.unitSeconds? = none) (shows : cal.zone.Shows t) (whole : t.nanos = 0)
    (before : t.seconds < -1200000000000) {f : Instant} (run : cal.floor g t = .ok f) :
    ∃ n, cal.next g f = .ok (some n) ∧ t.seconds < n.seconds := by
  have near := cal.zone.clock_near t
  obtain ⟨d, date, exact⟩ := exists_dateOf shows
  have day := exact whole
  have back := cal.bucketDate_day_le g d
  have first := (cal.bucketDate g d).first_le
  obtain ⟨x, dateX, exactX⟩ := exists_dateOf (shows_floor settled shows run)
  have same : x = cal.bucketDate g d := Date.day_injective (by
    rw [exactX (floor_nanos run), floor_byDate_low settled byDate date (by omega) run]
    omega)
  obtain ⟨n, found, _⟩ := nextDate?_day g (d := cal.bucketDate g d) (by unfold lastDay; omega)
  have later := cal.lt_of_nextDate? g found
  have close := (nextDate?_near found).2
  obtain ⟨stop, dawns, _, _, clock⟩ := exists_dayStart settled (d := n) (.inr (by omega))
  have nearStop := cal.zone.clock_near stop
  have clockStop := clock (.inl (by omega))
  have clockT := settled.clock_early (t := t) (by omega)
  have clockS := settled.clock_early (t := stop) (by omega)
  refine ⟨stop, ?_, by omega⟩
  simp only [next, byDate, dateX, same, found, dawns, bind, Except.bind, pure, Except.pure]

/-- The last days are reached at a midnight only. -/
def Final (cal : Calendar) (t : Instant) : Prop :=
  lastSecond - 86400 * 100 < t.seconds → t.nanos = 0 ∧ cal.zone.clock t % 86400 = 0

/-- A ceiling overflows just where the floor does. -/
theorem ceil_overflow_iff (shows : cal.zone.Shows t) : cal.ceil g t = .error .outOfRange ↔ cal.CutOff early g t := by
  rw [← floor_overflow_iff settled shows, ceil, bind_eq_error_iff]
  constructor
  · rintro (error | ⟨f, floor, error⟩)
    · exact error
    · obtain ⟨a, next, _⟩ := exists_next settled g (shows_floor settled shows floor)
      split at error
      · cases error
      · simp [next, bind, Except.bind, pure, Except.pure] at error
  · exact .inl

theorem shows_ceil {c : Instant} (shows : cal.zone.Shows t) (final : cal.Final t) (run : cal.ceil g t = .ok c) :
    cal.zone.Shows c := by
  obtain ⟨f, floor, run⟩ := bind_eq_ok_iff.1 run
  have showsF := shows_floor settled shows floor
  split at run
  · cases run
    exact showsF
  · next moves =>
    obtain ⟨a, next, run⟩ := bind_eq_ok_iff.1 run
    cases run
    cases a with
    | none => exact showsF
    | some n =>
      rw [Option.getD_some]
      apply shows_next settled showsF next
      intro byClock
      obtain ⟨unit, cut⟩ := Option.ne_none_iff_exists'.1 byClock
      have near := next_near next
      have nearF := floor_near floor
      by_contra past
      -- A midnight is its own floor.
      unfold lastSecond at past
      obtain ⟨whole, midnight⟩ := final (by unfold lastSecond; omega)
      simp only [Calendar.floor, cut] at floor
      have on : cal.zone.clock t % (unit : Int) = 0 := by rcases Granularity.clockUnit cut with rfl | rfl <;> omega
      rw [clockFloor_of_onUnit whole on] at floor
      exact moves (Except.ok.inj floor).symm

/-- In the first years the next boundary by the clock is where it shows the next whole unit. -/
theorem next_byClock_low {unit : Nat} (byClock : g.unitSeconds? = some unit) (whole : t.nanos = 0)
    (before : t.seconds < -1100000000000) :
    ∃ n, cal.next g t = .ok (some n) ∧ n.seconds = t.seconds + unit - cal.zone.clock t % unit ∧ n.nanos = 0 := by
  have isUnit := Granularity.clockUnit byClock
  have first := t.first_le
  have small := isUnit.le
  have plain : ¬ t.InLeapSecond := Moment.plain_of_whole whole
  obtain ⟨ahead, run⟩ := Moment.exists_addSeconds? (m := t) (d := (unit * 1 : Nat)) (by omega)
    (by unfold lastSecond; omega) fun leap => absurd leap plain
  obtain ⟨seconds, nanos⟩ := (Moment.addSeconds?_eq_some_iff (Nat.lt_of_not_le plain)).1 run
  have clockT := settled.clock_early (t := t) (by omega)
  have clockA := settled.clock_early (t := ahead) (by omega)
  have floor := clockFloor_low settled isUnit (t := ahead) (by omega)
  have same : cal.zone.clock ahead % unit = cal.zone.clock t % unit := by rcases isUnit with rfl | rfl <;> omega
  have beyond : cal.zone.clock t % unit < unit := by rcases isUnit with rfl | rfl <;> omega
  rw [same, if_pos (by omega)] at floor
  have later : t < cal.clockFloor unit ahead := by
    rw [Moment.lt_iff_seconds (clockFloor_nanos _ _ _)]
    omega
  refine ⟨cal.clockFloor unit ahead, ?_, by omega, clockFloor_nanos _ _ _⟩
  simp only [next, byClock, clockNext?, run, later, if_true]

/-! ## One second before -/

/-- Behind an instant that the clock shows there is a second before, shown as well. -/
theorem exists_before {a : Instant} (showsA : cal.zone.Shows a) (shows : cal.zone.Shows t) (whole : t.nanos = 0)
    (after : a.seconds < t.seconds) :
    ∃ b, t.addSeconds? (-1) = some b ∧ b.seconds = t.seconds - 1 ∧ b.nanos = 0 ∧ cal.zone.Shows b := by
  have first := a.first_le
  have last := t.le_last
  have plain : ¬ t.InLeapSecond := Moment.plain_of_whole whole
  obtain ⟨b, run⟩ := Moment.exists_addSeconds? (m := t) (d := -1) (by omega) (by omega) fun leap => absurd leap plain
  obtain ⟨seconds, nanos⟩ := (Moment.addSeconds?_eq_some_iff (Nat.lt_of_not_le plain)).1 run
  exact ⟨b, run, seconds, nanos.trans whole, settled.shows_between showsA shows (by omega) (by omega)⟩

/-- Before a bucket that is cut off, every bucket is. -/
theorem CutOff.of_le {a b : Instant} (cut : cal.CutOff early g b) (le : a.seconds ≤ b.seconds)
    (showsA : cal.zone.Shows a) (wholeA : a.nanos = 0) (showsB : cal.zone.Shows b) (wholeB : b.nanos = 0) :
    cal.CutOff early g a := by
  have low := cut.low
  obtain ⟨byDate, d, date, beyond⟩ := cut
  obtain ⟨_, dateB, dayB⟩ := exists_dateOf showsB
  rw [date] at dateB
  cases dateB
  obtain ⟨e, dateA, dayA⟩ := exists_dateOf showsA
  have clockA := settled.clock_early (t := a) (by unfold firstSecond at low; omega)
  have clockB := settled.clock_early (t := b) (by unfold firstSecond at low; omega)
  have order := cal.bucketDate_le g (d := e) (e := d) (by rw [dayA wholeA, dayB wholeB]; omega)
  have first := (cal.bucketDate g e).first_le
  rw [Offset.not_opens_iff] at beyond
  exact ⟨byDate, e, dateA, Offset.not_opens_iff.2 ⟨beyond.1, by omega⟩⟩

end Settled

end Calendar

end BucketPlan
