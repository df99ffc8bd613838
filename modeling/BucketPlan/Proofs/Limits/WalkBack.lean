import BucketPlan.Proofs.Bucket.Walk
import BucketPlan.Proofs.Limits.Calendar

/-!
How far a walk back over buckets leads. Far from the beginning it never overflows
(`walk_previous_far`). In the first years a walk over buckets cut by the calendar
overflows where it would pass the first date, or reach it with a clock ahead of UTC
(`walk_previous_low`). A walk over buckets cut by the clock goes back by whole
units as long as these are representable (`walk_previous_byClock`), and the buckets from
there on are the units, a part of one counted as a whole (`unitsBetween_of_yields`).
-/

namespace BucketPlan.Calendar

variable {cal : Calendar} {g : Granularity} {early late : Offset} (settled : cal.zone.Settled early late)
include settled

/-! ## Far from the beginning -/

theorem exists_previous_far {t : Instant} (shows : cal.zone.Shows t) (whole : t.nanos = 0)
    (far : -4000000000000 ≤ t.seconds) :
    ∃ f, cal.previous g t = .ok (some f) ∧ cal.zone.Shows f ∧ f.nanos = 0 ∧ t.seconds - 86400 * 40 ≤ f.seconds := by
  have last := t.le_last
  have plain : ¬ t.InLeapSecond := Moment.plain_of_whole whole
  obtain ⟨b, run⟩ := Moment.exists_addSeconds? (m := t) (d := -1) (by unfold firstSecond; omega) (by omega)
    fun leap => absurd leap plain
  have seconds := ((Moment.addSeconds?_eq_some_iff (Nat.lt_of_not_le plain)).1 run).1
  have near := cal.zone.clock_near b
  have showsB : cal.zone.Shows b :=
    ⟨by unfold firstSecond; omega, settled.clock_le_midnight shows.le_midnight (by omega)⟩
  cases floor : cal.floor g b with
  | error e =>
    cases e
    have low := ((floor_overflow_iff settled showsB).1 floor).low
    unfold firstSecond at low
    omega
  | ok f =>
    have nearF := floor_near floor
    refine ⟨f, ?_, shows_floor settled showsB floor, floor_nanos floor, by omega⟩
    simp only [previous, run, floor, bind, Except.bind, pure, Except.pure]

/-- Far from the beginning a walk back has an end, which the clock shows. -/
theorem walk_previous_far (steps : Nat) {t : Instant} (shows : cal.zone.Shows t) (whole : t.nanos = 0)
    (far : -4000000000000 + 86400 * 40 * steps ≤ t.seconds) :
    ∃ f, walk (cal.previous g) steps t = .ok (some f) ∧ cal.zone.Shows f ∧ f.nanos = 0 ∧
      t.seconds - 86400 * 40 * steps ≤ f.seconds := by
  induction steps generalizing t with
  | zero => exact ⟨t, rfl, shows, whole, by omega⟩
  | succ steps ih =>
    obtain ⟨before, previous, showsB, wholeB, near⟩ := exists_previous_far (g := g) settled shows whole (by omega)
    obtain ⟨f, walked, showsF, wholeF, close⟩ := ih showsB wholeB (by omega)
    refine ⟨f, ?_, showsF, wholeF, by omega⟩
    simp only [walk, previous, walked, bind, Except.bind]

/-! ## By the calendar, in the first years -/

/-- In the first years a bucket begins with the date, at the instant. -/
structure BeginsAt (cal : Calendar) (g : Granularity) (d : Date) (t : Instant) : Prop where
  whole : t.nanos = 0
  clock : cal.zone.clock t = 86400 * d.day
  leads : cal.bucketDate g d = d
  low : 86400 * d.day < -1100000000000

namespace BeginsAt

variable {d : Date} {t : Instant} (begins : cal.BeginsAt g d t)
include begins

theorem seconds : t.seconds = 86400 * d.day - early.seconds := by
  have near := cal.zone.clock_near t
  have low := begins.low
  have clock := begins.clock
  have early := settled.clock_early (t := t) (by omega)
  omega

omit settled in
theorem shows : cal.zone.Shows t := by
  have first := d.first_le
  have low := begins.low
  unfold firstDay at first
  rw [Zone.shows_iff, begins.clock]
  omega

omit settled in
theorem dateOf : cal.dateOf t = .ok d := by
  obtain ⟨e, date, exact⟩ := exists_dateOf begins.shows
  have same : e = d := Date.day_injective (by rw [exact begins.whole, begins.clock]; omega)
  rw [date, same]

/-- A bucket that begins is not cut off. -/
theorem opens : early.Opens d := by
  have first := t.first_le
  have seconds := begins.seconds settled
  rw [firstSecond_eq] at first
  unfold Offset.Opens
  have low := d.first_le
  omega

end BeginsAt

section ByDate
variable (byDate : g.unitSeconds? = none) {d : Date} {t : Instant}
include byDate

theorem BeginsAt.of_floor {f : Instant} (date : cal.dateOf t = .ok d) (low : 86400 * d.day < -1100000000000)
    (run : cal.floor g t = .ok f) : cal.BeginsAt g (cal.bucketDate g d) f where
  whole := floor_nanos run
  clock := floor_byDate_low settled byDate date low run
  leads := cal.bucketDate_bucketDate g d
  low := by have back := cal.bucketDate_day_le g d; omega

theorem previous_first (begins : cal.BeginsAt g d t) (first : d.day = firstDay) :
    early.seconds ≤ 0 ∧ (early.seconds = 0 → cal.previous g t = .ok none) ∧
      (early.seconds < 0 → cal.previous g t = .error .outOfRange) := by
  have least := t.first_le
  have seconds := begins.seconds settled
  have plain : ¬ t.InLeapSecond := Moment.plain_of_whole begins.whole
  rw [first] at seconds
  rw [firstSecond_eq] at least
  refine ⟨by omega, ?_, ?_⟩
  · intro level
    have none : t.addSeconds? (-1) = none := Moment.addSeconds?_eq_none plain (by rw [firstSecond_eq]; omega)
    simp only [previous, none]
  · intro behind
    have last := t.le_last
    obtain ⟨b, run⟩ := Moment.exists_addSeconds? (m := t) (d := -1) (by rw [firstSecond_eq]; omega) (by omega)
      fun leap => absurd leap plain
    obtain ⟨before, nanos⟩ := (Moment.addSeconds?_eq_some_iff (Nat.lt_of_not_le plain)).1 run
    have low := begins.low
    have lower := early.lower
    have clock := settled.clock_early (t := b) (by omega)
    have overflow : cal.dateOf b = .error .outOfRange :=
      dateOf_overflow (nanos.trans begins.whole) (by rw [firstSecond_eq]; omega)
    simp only [previous, run, floor, byDate, overflow, bind, Except.bind]

theorem previous_begins (begins : cal.BeginsAt g d t) {e : Date} (follows : d.day = e.day + 1) :
    (¬ early.Opens (cal.bucketDate g e) → cal.previous g t = .error .outOfRange) ∧
      (early.Opens (cal.bucketDate g e) →
        ∃ f, cal.previous g t = .ok (some f) ∧ cal.BeginsAt g (cal.bucketDate g e) f) := by
  have lower := early.lower
  have upper := early.upper
  have first := e.first_le
  have seconds := begins.seconds settled
  have low := begins.low
  have plain : ¬ t.InLeapSecond := Moment.plain_of_whole begins.whole
  have origin := firstSecond_eq
  obtain ⟨b, run⟩ := Moment.exists_addSeconds? (m := t) (d := -1) (by omega) (by unfold lastSecond; omega)
    fun leap => absurd leap plain
  obtain ⟨before, nanos⟩ := (Moment.addSeconds?_eq_some_iff (Nat.lt_of_not_le plain)).1 run
  have clock := settled.clock_early (t := b) (by omega)
  have shows : cal.zone.Shows b := ⟨by omega, by unfold lastDay; omega⟩
  obtain ⟨x, date, exact⟩ := exists_dateOf shows
  have same : x = e := Date.day_injective (by rw [exact (nanos.trans begins.whole)]; omega)
  rw [same] at date
  constructor
  · intro beyond
    have overflow := (floor_overflow_iff settled shows).2 ⟨byDate, e, date, beyond⟩
    simp only [previous, run, overflow, bind, Except.bind]
  · intro opens
    obtain ⟨f, dawns, _⟩ := exists_dayStart settled opens
    have floor : cal.floor g b = .ok f := by simp only [floor, byDate, date, dawns, bind, Except.bind]
    refine ⟨f, ?_, BeginsAt.of_floor settled byDate date (by omega) floor⟩
    simp only [previous, run, floor, bind, Except.bind, pure, Except.pure]

/-- In the first years a walk back overflows where it would pass the first date, or reach it
    with a clock ahead of UTC; where it has an end, a bucket begins there. -/
theorem walk_previous_low (steps : Nat) (begins : cal.BeginsAt g d t) :
    (walk (cal.previous g) steps t = .error .outOfRange ↔
      0 < early.seconds ∧ cal.leadsBefore g d ≤ steps ∨ early.seconds < 0 ∧ cal.leadsBefore g d < steps) ∧
    ∀ f, walk (cal.previous g) steps t = .ok (some f) → ∃ e, cal.BeginsAt g e f := by
  induction steps generalizing d t with
  | zero =>
    refine ⟨?_, by rintro _ ⟨⟩; exact ⟨d, begins⟩⟩
    simp only [walk, reduceCtorEq, false_iff]
    rintro (⟨ahead, none⟩ | ⟨_, less⟩)
    · -- A clock ahead of UTC does not show the beginning of the first date.
      have first := d.first_le
      rcases Int.lt_or_eq_of_le first with later | same
      · obtain ⟨e, _, day⟩ := Date.ofDay?_inside (n := d.day - 1) (by omega) (by have := d.le_last; omega)
        rw [leadsBefore_eq_succ (d := e) (by omega)] at none
        omega
      · have level := (previous_first settled byDate begins same.symm).1
        omega
    · omega
  | succ steps ih =>
    rcases Int.lt_or_eq_of_le d.first_le with later | first
    · obtain ⟨e, _, day⟩ := Date.ofDay?_inside (n := d.day - 1) (by omega) (by have := d.le_last; omega)
      have count : cal.leadsBefore g d = cal.leadsBefore g (cal.bucketDate g e) + 1 := leadsBefore_eq_succ (by omega)
      obtain ⟨cut, goes⟩ := previous_begins settled byDate begins (e := e) (by omega)
      by_cases opens : early.Opens (cal.bucketDate g e)
      · obtain ⟨b, previous, beginsB⟩ := goes opens
        obtain ⟨overflow, ends⟩ := ih beginsB
        simp only [walk, previous, bind, Except.bind]
        refine ⟨?_, ends⟩
        rw [overflow, count]
        omega
      · obtain ⟨ahead, atFirst⟩ := Offset.not_opens_iff.1 opens
        have none : cal.leadsBefore g (cal.bucketDate g e) = 0 := leadsBefore_first atFirst
        simp only [walk, cut opens, bind, Except.bind, reduceCtorEq, false_implies, implies_true, and_true, true_iff]
        exact .inl ⟨ahead, by omega⟩
    · have none : cal.leadsBefore g d = 0 := leadsBefore_first first.symm
      obtain ⟨behind, atUtc, west⟩ := previous_first settled byDate begins first.symm
      rcases Int.lt_or_eq_of_le behind with less | level
      · simp only [walk, west less, bind, Except.bind, reduceCtorEq, false_implies, implies_true, and_true, true_iff]
        exact .inr ⟨less, by omega⟩
      · simp only [walk, atUtc level, bind, Except.bind, pure, Except.pure, Except.ok.injEq, reduceCtorEq,
          false_implies, implies_true, and_true, false_iff]
        omega

end ByDate

/-! ## By the clock, in the first years -/

section ByClock
variable {unit : Nat} (byClock : g.unitSeconds? = some unit) {m : Instant} (low : m.seconds < -1100000000000)
include byClock low

omit settled low in
theorem exists_walk_byClock (steps : Nat) (t : Instant) : ∃ a, walk (cal.previous g) steps t = .ok a := by
  induction steps generalizing t with
  | zero => exact ⟨some t, rfl⟩
  | succ steps ih =>
    obtain ⟨a, previous⟩ : ∃ a, cal.previous g t = .ok a := by
      unfold previous
      split
      · exact ⟨none, rfl⟩
      · exact ⟨_, by simp only [floor, byClock, bind, Except.bind, pure, Except.pure]; rfl⟩
    cases a with
    | none => exact ⟨none, by simp only [walk, previous, bind, Except.bind, pure, Except.pure]⟩
    | some b =>
      obtain ⟨f, walked⟩ := ih b
      exact ⟨f, by simp only [walk, previous, walked, bind, Except.bind]⟩

theorem previous_byClock_low (whole : m.nanos = 0) (on : cal.zone.clock m % unit = 0)
    (after : firstSecond < m.seconds) :
    ∃ f, cal.previous g m = .ok (some f) ∧ f.nanos = 0 ∧
      f.seconds = if firstSecond ≤ m.seconds - unit then m.seconds - unit else m.seconds - 1 := by
  have isUnit := Granularity.clockUnit byClock
  have last := m.le_last
  have plain : ¬ m.InLeapSecond := Moment.plain_of_whole whole
  obtain ⟨b, run⟩ := Moment.exists_addSeconds? (m := m) (d := -1) (by omega) (by omega) fun leap => absurd leap plain
  obtain ⟨seconds, nanos⟩ := (Moment.addSeconds?_eq_some_iff (Nat.lt_of_not_le plain)).1 run
  have clockM := settled.clock_early (t := m) (by omega)
  have clockB := settled.clock_early (t := b) (by omega)
  have beyond : cal.zone.clock b % unit = unit - 1 := by rcases isUnit with rfl | rfl <;> omega
  have floor := clockFloor_low settled isUnit (t := b) (by omega)
  rw [beyond, show b.seconds - ((unit : Int) - 1) = m.seconds - unit by omega, show b.seconds = m.seconds - 1 by omega]
    at floor
  refine ⟨cal.clockFloor unit b, ?_, clockFloor_nanos _ _ _, floor⟩
  simp only [previous, run, Calendar.floor, byClock, bind, Except.bind, pure, Except.pure]

/-- As long as all but the last step go back by whole units, a walk back has an end. -/
theorem walk_previous_byClock (steps : Nat) (whole : m.nanos = 0) (on : cal.zone.clock m % unit = 0)
    (room : unit * steps < m.seconds - firstSecond) :
    ∃ f, walk (cal.previous g) (steps + 1) m = .ok (some f) ∧ f.nanos = 0 ∧
      m.seconds - (unit * steps + unit) ≤ f.seconds ∧ f.seconds < m.seconds - unit * steps := by
  have isUnit := Granularity.clockUnit byClock
  induction steps generalizing m with
  | zero =>
    obtain ⟨f, previous, wholeF, seconds⟩ := previous_byClock_low settled byClock low whole on (by omega)
    refine ⟨f, ?_, wholeF, ?_⟩
    · simp only [walk, previous, bind, Except.bind]
    · split at seconds <;> rcases isUnit with rfl | rfl <;> omega
  | succ steps ih =>
    have further : (unit : Int) * (steps + 1 : Nat) = unit * steps + unit := by
      rw [Int.natCast_succ, Int.mul_add, Int.mul_one]
    have positive : 0 ≤ (unit : Int) * steps := Int.mul_nonneg (Int.natCast_nonneg _) (Int.natCast_nonneg _)
    obtain ⟨b, previous, wholeB, seconds⟩ := previous_byClock_low settled byClock low whole on (by omega)
    rw [if_pos (by omega)] at seconds
    have clockM := settled.clock_early (t := m) (by omega)
    have clockB := settled.clock_early (t := b) (by omega)
    obtain ⟨f, walked, wholeF, least, less⟩ := ih (m := b) (by omega) wholeB
      (by rcases isUnit with rfl | rfl <;> omega) (by omega)
    refine ⟨f, ?_, wholeF, by omega, by omega⟩
    rw [walk, previous]
    exact walked

/-- A cursor before a whole unit yields as many buckets as there are units in between, a part
    of one counted as a whole. -/
theorem unitsBetween_of_yields {c : Cursor} {starts : List Instant} (yields : c.Yields cal starts)
    (sameG : c.granularity = g) (sameM : c.stop = m) (wholeM : m.nanos = 0) (on : cal.zone.clock m % unit = 0)
    {t : Instant} (standing : c.upcoming = some t) (whole : t.nanos = 0) (before : t < m) :
    m.seconds - t.seconds ≤ unit * starts.length ∧ unit * starts.length < m.seconds - t.seconds + unit := by
  have isUnit := Granularity.clockUnit byClock
  have clockM := settled.clock_early (t := m) (by omega)
  induction yields generalizing t with
  | @ends c done =>
    have here : t < c.stop := sameM ▸ before
    simp only [Cursor.next?, standing, here, if_true] at done
    split at done <;> cases done
  | @step c rest s starts step more ih =>
    obtain ⟨here, _, following, next, rfl⟩ := Cursor.next?_eq_some_iff.1 step
    rw [standing] at here
    cases here
    have secondsS := (Moment.lt_iff_seconds wholeM).1 before
    have clockS := settled.clock_early (t := s) (by omega)
    obtain ⟨n, again, seconds, wholeN⟩ := next_byClock_low settled byClock whole (by omega)
    rw [sameG, again] at next
    cases next
    have beyond : 0 ≤ cal.zone.clock s % unit ∧ cal.zone.clock s % unit < unit := by
      rcases isUnit with rfl | rfl <;> omega
    have later : s < n := by rw [Moment.lt_iff_seconds wholeN]; omega
    have goes : (some n).filter (s < ·) = some n := by simp [Option.filter, later]
    rcases Int.lt_or_le n.seconds m.seconds with inside | reached
    · have left := ih sameG sameM goes wholeN ((Moment.lt_iff_seconds wholeM).2 inside)
      rw [List.length_cons]
      rcases isUnit with rfl | rfl <;> omega
    · -- The next whole unit is the end.
      have past : ¬ n < c.stop := by rw [sameM, Moment.lt_iff_seconds wholeM]; omega
      cases more with
      | ends _ =>
        rw [List.length_singleton]
        rcases isUnit with rfl | rfl <;> omega
      | step stepN _ =>
        obtain ⟨standingN, less, _⟩ := Cursor.next?_eq_some_iff.1 stepN
        rw [goes] at standingN
        cases standingN
        exact absurd less past

end ByClock

end BucketPlan.Calendar
