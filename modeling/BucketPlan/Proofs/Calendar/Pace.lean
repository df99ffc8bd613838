import BucketPlan.Proofs.Bucket.Walk
import BucketPlan.Proofs.Calendar.ClockFloor
import Mathlib.Algebra.Ring.Int.Defs

/-!
One bucket can be far longer than usual, but only where a switch holds the walk up. So
what a walk has done is measured on the line less what the switches have held it up by
(`heldUp`): by this measure no bucket is longer than usual, whatever the offsets
(`next_pace_byDate`, `next_pace_byClock`), and with what a switch can save added in place
of it no bucket of the clock is shorter (`unitNext_spread`). A walk that reaches the end of
a period has therefore as many buckets as the period is long, but for what two switches
can add (`exists_walk`).
-/

namespace BucketPlan

/-! ## Walks at a pace -/

namespace Calendar

variable {cal : Calendar} {g : Granularity} {stop : Instant}

/-- Where each step from a kept instant leads to a later one and adds `usual` at most to
    some measure, a walk reaches the end and has added no more than that for each of its
    buckets. -/
theorem exists_walk {Kept : Instant → Prop} {measure : Instant → Int} {usual : Int}
    (step : ∀ t, Kept t → t < stop →
      ∃ n, cal.next g t = .ok (some n) ∧ Kept n ∧ t < n ∧ measure n ≤ measure t + usual)
    {t : Instant} (kept : Kept t) :
    ∃ starts reached, Cursor.Yields cal ⟨g, some t, stop⟩ starts ∧ Kept reached ∧ stop ≤ reached ∧
      measure reached ≤ measure t + usual * starts.length := by
  by_cases before : t < stop
  · obtain ⟨n, next, keptN, later, paced⟩ := step t kept before
    have closer := (Moment.lt_iff_seconds (next_nanos next)).1 later
    have room : t.seconds ≤ stop.seconds := by
      rw [Moment.lt_def] at before
      omega
    obtain ⟨starts, reached, yields, keptReached, past, total⟩ := exists_walk step keptN
    refine ⟨t :: starts, reached, ?_, keptReached, past, ?_⟩
    · refine .step (Cursor.next?_eq_some_iff.2 ⟨rfl, before, some n, next, rfl⟩) ?_
      rw [Option.filter_some, if_pos (decide_eq_true later)]
      exact yields
    · rw [List.length_cons, Int.natCast_succ, Int.mul_add, Int.mul_one]
      omega
  · refine ⟨[], t, .ends ?_, kept, not_lt.1 before, ?_⟩
    · simp only [Cursor.next?, before, if_false]
    · simp
termination_by (stop.seconds - t.seconds + 1).toNat
decreasing_by omega

end Calendar

/-- The length of the stretch of the wall clock that a switch repeats, on the line. -/
def Switch.repeated (s : Switch) : Int := 2000000000 * max 0 (s.before.seconds - s.after.seconds)

namespace FixedRule

variable {r : FixedRule} {g : Granularity} (weekStart : Weekday)

/-! ## What switches hold up -/

/-- What the switches up to a place have held a walk up by, each by its own amount. -/
def heldUp (r : FixedRule) (amount : Switch → Int) (n : Int) : Int :=
  ((r.switches.filter fun s => s.instant.place ≤ n).map amount).sum

theorem heldUp_none (steady : r.daylight = none) (amount : Switch → Int) (n : Int) : r.heldUp amount n = 0 := by
  simp [heldUp, switches, steady]

theorem heldUp_window {w : Daylight} (window : r.daylight = some w) (amount : Switch → Int) (n : Int) :
    r.heldUp amount n = (if w.start.place ≤ n then amount ⟨w.start, r.standard, w.offset⟩ else 0) +
      (if w.stop.place ≤ n then amount ⟨w.stop, w.offset, r.standard⟩ else 0) := by
  unfold heldUp
  simp only [switches, window, List.filter_cons, List.filter_nil, decide_eq_true_eq]
  split_ifs <;> simp

theorem heldUp_const_bounds (r : FixedRule) (amount : Nat) (n : Int) :
    0 ≤ r.heldUp (fun _ => 2000000000 * amount) n ∧
      r.heldUp (fun _ => 2000000000 * amount) n ≤ 2000000000 * (2 * amount) := by
  cases window : r.daylight with
  | none => rw [heldUp_none window]; omega
  | some w =>
    rw [heldUp_window window]
    split_ifs <;> omega

/-! ## Buckets cut by the calendar -/

section ByDate
variable (byDate : g.unitSeconds? = none) (lasting : r.Lasting)
include byDate lasting

/-- From the dawn of a day the next boundary is a later dawn, and but for what the
    switches repeat no further than a bucket is long. -/
theorem next_pace_byDate {t : Instant} (inside : t.InsideBy 40) (whole : t.nanos = 0) {m : Int}
    (dawns : t.place = r.dawn m) :
    ∃ n k, (r.calendar weekStart).next g t = .ok (some n) ∧ n.place = r.dawn k ∧ t < n ∧
      n.place - r.heldUp Switch.repeated n.place ≤
        t.place - r.heldUp Switch.repeated t.place + 172800000000000 * g.longestDays := by
  obtain ⟨n, next, _, closes⟩ := next_calendar r weekStart byDate inside (Moment.plain_of_whole whole)
  have bounds := g.followingDay_bounds (r.dayAt t.place)
  -- The midnight that the clock has yet to reach, but for the days of a bucket.
  generalize g.followingDay (r.dayAt t.place) = k at closes bounds
  have shows : 172800000000000 * r.dayAt t.place ≤ r.shown t.place := le_dayAt_iff.1 (Int.le_refl _)
  have ahead : r.shown t.place < 172800000000000 * k := by
    rw [← Int.not_le, ← le_dayAt_iff]
    omega
  have later : t.place < r.resolved (172800000000000 * k) := by
    rw [← Int.not_le, resolved_le_iff lasting ahead]
    rintro ⟨s, member, repeats, since, _⟩
    have reached := le_shown_resolved lasting (172800000000000 * m)
    rw [← dawn, ← dawns] at reached
    have before := resolved_lt_of_repeats lasting (Int.le_of_lt (Int.lt_of_le_of_lt reached ahead)) member repeats
    rw [← dawn, ← dawns] at before
    omega
  have near : 172800000000000 * k ≤ r.shown t.place + 172800000000000 * g.longestDays := by omega
  refine ⟨n, k, next, closes, ?_, ?_⟩
  · rw [Moment.lt_iff_place, closes, dawn]
    exact later
  · rw [closes, dawn]
    unfold resolved at *
    unfold shown at near ahead
    cases window : r.daylight with
    | none =>
      rw [heldUp_none window, heldUp_none window]
      simp only [aheadAt, window] at near
      simp only [offsetOn, window]
      omega
    | some w =>
      rw [heldUp_window window, heldUp_window window]
      have long := Daylight.place_of_lasting (lasting w window)
      have now := aheadAt_window window t.place
      simp only [Switch.repeated]
      rcases offsetOn_window lasting window (172800000000000 * k) with ⟨_, _, eq⟩ | ⟨_, _, _, eq⟩ | ⟨_, _, eq⟩ | ⟨_, _, eq⟩
      · split_ifs <;> omega
      · split_ifs <;> omega
      · split_ifs <;> omega
      · split_ifs <;> omega

end ByDate

/-! ## Buckets cut by the clock -/

section ByClock
variable {unit : Nat}

theorem unitNext_of_same_offset (isUnit : ClockUnit unit) {s : Int} (on : r.OnUnit unit s)
    (same : r.aheadAt (2000000000 * (s + unit)) = r.aheadAt (2000000000 * s)) : r.unitNext unit s = s + unit := by
  have onNext : r.OnUnit unit (s + unit) := by
    unfold OnUnit beyond at *
    rw [same]
    rcases isUnit with rfl | rfl <;> omega
  have positive : (0 : Int) < unit := by rcases isUnit with rfl | rfl <;> decide
  rw [unitNext, unitFloor_of_onUnit onNext, if_pos (by omega)]

/-- From a whole unit the next boundary is a later one, and no further than a unit but for
    two units more at a switch, whatever the window of the rule. -/
theorem next_pace_byClock (byClock : g.unitSeconds? = some unit) {t : Instant} (inside : t.InsideBy 2)
    (whole : t.nanos = 0) (on : r.OnUnit unit t.seconds) :
    ∃ n, (r.calendar weekStart).next g t = .ok (some n) ∧ n.nanos = 0 ∧ r.OnUnit unit n.seconds ∧ t < n ∧
      n.place - r.heldUp (fun _ => 4000000000 * unit) n.place ≤
        t.place - r.heldUp (fun _ => 4000000000 * unit) t.place + 2000000000 * unit := by
  have isUnit := Granularity.clockUnit byClock
  obtain ⟨n, next, seconds, nanos⟩ := next_clock (r := r) weekStart byClock inside whole
  obtain ⟨onNext, later, near⟩ := unitNext_spec (r := r) isUnit t.seconds
  have usual := unitNext_of_same_offset isUnit on
  rw [← seconds] at onNext later near usual
  refine ⟨n, next, nanos, onNext, ?_, ?_⟩
  · rw [Moment.lt_iff_seconds nanos]
    exact later
  · rw [Moment.place_of_whole nanos, Moment.place_of_whole whole]
    cases window : r.daylight with
    | none =>
      rw [heldUp_none window, heldUp_none window]
      simp only [aheadAt, window, forall_const] at usual
      omega
    | some w =>
      rw [heldUp_window window, heldUp_window window]
      have here := aheadAt_window window (2000000000 * t.seconds)
      have ahead := aheadAt_window window (2000000000 * (t.seconds + unit))
      by_cases same : r.aheadAt (2000000000 * (t.seconds + unit)) = r.aheadAt (2000000000 * t.seconds)
      · have one := usual same
        split_ifs <;> omega
      · -- The offset changes within the unit, at a switch that is now passed.
        split_ifs <;> omega

/-- A bucket is shorter than a unit only where it ends past a switch. -/
theorem unitNext_spread (isUnit : ClockUnit unit) {s : Int} (on : r.OnUnit unit s) :
    2000000000 * s + r.heldUp (fun _ => 2000000000 * unit) (2000000000 * s) + 2000000000 * unit ≤
      2000000000 * r.unitNext unit s + r.heldUp (fun _ => 2000000000 * unit) (2000000000 * r.unitNext unit s) := by
  obtain ⟨onNext, later, near⟩ := unitNext_spec (r := r) isUnit s
  have usual := unitNext_of_same_offset isUnit on
  generalize r.unitNext unit s = n at *
  unfold OnUnit beyond at on onNext
  cases window : r.daylight with
  | none =>
    rw [heldUp_none window, heldUp_none window]
    simp only [aheadAt, window, forall_const] at usual
    omega
  | some w =>
    rw [heldUp_window window, heldUp_window window]
    have here := aheadAt_window window (2000000000 * s)
    have there := aheadAt_window window (2000000000 * n)
    rcases isUnit with rfl | rfl
    · split_ifs <;> omega
    · split_ifs <;> omega

theorem exists_bucketStarts_spread (byClock : g.unitSeconds? = some unit) {p : Period} (whole : p.start.nanos = 0)
    (on : r.OnUnit unit p.start.seconds) (insideStart : p.start.InsideBy 2) (insideStop : p.stop.InsideBy 2)
    (order : p.start ≤ p.stop) :
    ∃ starts, (r.calendar weekStart).bucketStarts g p = .ok starts ∧
      unit * (starts.length : Int) ≤ p.stop.seconds - p.start.seconds + 5 * unit := by
  have isUnit := Granularity.clockUnit byClock
  have step : ∀ t, (t.nanos = 0 ∧ r.OnUnit unit t.seconds ∧ p.start ≤ t ∧ t.seconds ≤ p.stop.seconds + 3 * unit) →
      t < p.stop → ∃ n, (r.calendar weekStart).next g t = .ok (some n) ∧
        (n.nanos = 0 ∧ r.OnUnit unit n.seconds ∧ p.start ≤ n ∧ n.seconds ≤ p.stop.seconds + 3 * unit) ∧ t < n ∧
        -(2000000000 * n.seconds + r.heldUp (fun _ => 2000000000 * unit) (2000000000 * n.seconds)) ≤
          -(2000000000 * t.seconds + r.heldUp (fun _ => 2000000000 * unit) (2000000000 * t.seconds)) +
            -(2000000000 * unit) := by
    rintro t ⟨wholeT, onT, since, _⟩ before
    obtain ⟨n, next, seconds, nanos⟩ := next_clock (r := r) weekStart byClock
      (insideStart.between insideStop since (le_of_lt before)) wholeT
    obtain ⟨onNext, later, near⟩ := unitNext_spec (r := r) isUnit t.seconds
    have spread := unitNext_spread isUnit onT
    rw [← seconds] at onNext later near spread
    have after : t < n := (Moment.lt_iff_seconds nanos).2 later
    rw [Moment.lt_def] at before
    exact ⟨n, next, ⟨nanos, onNext, le_trans since (le_of_lt after), by omega⟩, after, by omega⟩
  have reached : p.start.seconds ≤ p.stop.seconds := (Moment.le_iff_seconds whole).1 order
  obtain ⟨starts, last, yields, ⟨_, _, _, near⟩, _, total⟩ :=
    Calendar.exists_walk step ⟨whole, on, le_refl p.start, by omega⟩
  refine ⟨starts, Calendar.bucketStarts_eq_ok_iff.2 yields, ?_⟩
  have first := heldUp_const_bounds r unit (2000000000 * p.start.seconds)
  have final := heldUp_const_bounds r unit (2000000000 * last.seconds)
  rw [Int.neg_mul, Int.mul_assoc] at total
  omega

end ByClock

end FixedRule

/-! ## Every granularity -/

namespace Granularity

/-- The length in seconds of a bucket that no switch holds up, or of the longest such. -/
def usualSeconds (g : Granularity) : Int :=
  match g.unitSeconds? with
  | some unit => unit
  | none => 86400 * g.longestDays

theorem usualSeconds_bounds (g : Granularity) : 0 < g.usualSeconds ∧ g.usualSeconds ≤ 86400 * 31 := by
  cases g <;> decide

/-- What a switch can hold up a walk over the buckets by, on the line. -/
def heldUpBy (g : Granularity) (s : Switch) : Int :=
  match g.unitSeconds? with
  | some unit => 4000000000 * unit
  | none => s.repeated

end Granularity

namespace FixedRule

variable {r : FixedRule} {g : Granularity}

theorem heldUp_bounds (r : FixedRule) (g : Granularity) (n : Int) :
    0 ≤ r.heldUp g.heldUpBy n ∧ r.heldUp g.heldUpBy n ≤ 2000000000 * 172800 := by
  cases window : r.daylight with
  | none =>
    rw [heldUp_none window]
    decide
  | some w =>
    have low := r.standard.lower
    have high := r.standard.upper
    have lowW := w.offset.lower
    have highW := w.offset.upper
    rw [heldUp_window window]
    cases units : g.unitSeconds? with
    | none =>
      simp only [Granularity.heldUpBy, units, Switch.repeated]
      split_ifs <;> omega
    | some unit =>
      have small := (Granularity.clockUnit units).le
      simp only [Granularity.heldUpBy, units]
      split_ifs <;> omega

/-- An instant at which a walk over the buckets can stand: a whole unit of the clock, or
    the dawn of a day. -/
structure Opens (r : FixedRule) (g : Granularity) (t : Instant) : Prop where
  whole : t.nanos = 0
  onUnit : ∀ unit, g.unitSeconds? = some unit → r.OnUnit unit t.seconds
  dawns : g.unitSeconds? = none → ∃ d, t.place = r.dawn d

variable (weekStart : Weekday)

theorem exists_floor_opens {t : Instant} (inside : t.InsideBy 40) :
    ∃ f, (r.calendar weekStart).floor g t = .ok f ∧ r.Opens g f := by
  cases units : g.unitSeconds? with
  | none =>
    obtain ⟨f, i, run, place, _⟩ := floor_calendar r weekStart units inside
    exact ⟨f, run, Calendar.floor_nanos run, by simp [units], fun _ => ⟨g.leadDay weekStart i, place⟩⟩
  | some unit =>
    obtain ⟨f, run, seconds, nanos⟩ := floor_clock (r := r) weekStart units (inside.mono 1 (by decide))
    have on := onUnit_unitFloor (r := r) (Granularity.clockUnit units) t.seconds
    rw [← seconds] at on
    refine ⟨f, run, nanos, fun _ same => ?_, by simp [units]⟩
    rwa [← Option.some.inj (units.symm.trans same)]

variable (lasting : g.unitSeconds? = none → r.Lasting)
include lasting

/-- From where a walk can stand it goes on to a later such instant, at the usual pace but
    for what the switches hold up. -/
theorem next_pace {t : Instant} (inside : t.InsideBy 40) (opens : r.Opens g t) :
    ∃ n, (r.calendar weekStart).next g t = .ok (some n) ∧ r.Opens g n ∧ t < n ∧
      n.place - r.heldUp g.heldUpBy n.place ≤
        t.place - r.heldUp g.heldUpBy t.place + 2000000000 * g.usualSeconds := by
  cases units : g.unitSeconds? with
  | none =>
    obtain ⟨d, dawns⟩ := opens.dawns units
    obtain ⟨n, k, next, closes, later, paced⟩ :=
      next_pace_byDate weekStart units (lasting units) inside opens.whole dawns
    have held : g.heldUpBy = Switch.repeated := by funext s; simp only [Granularity.heldUpBy, units]
    refine ⟨n, next, ⟨Calendar.next_nanos next, by simp [units], fun _ => ⟨k, closes⟩⟩, later, ?_⟩
    rw [held]
    simp only [Granularity.usualSeconds, units]
    omega
  | some unit =>
    obtain ⟨n, next, nanos, on, later, paced⟩ :=
      next_pace_byClock (r := r) weekStart units (inside.mono 2 (by decide)) opens.whole (opens.onUnit unit units)
    have held : g.heldUpBy = fun _ => 4000000000 * (unit : Int) := by
      funext s; simp only [Granularity.heldUpBy, units]
    refine ⟨n, next, ⟨nanos, fun _ same => ?_, by simp [units]⟩, later, ?_⟩
    · rwa [← Option.some.inj (units.symm.trans same)]
    · rw [held]
      simp only [Granularity.usualSeconds, units]
      exact paced

/-- The buckets of a period are as many as it takes to fill it at the usual pace, but for
    two days. -/
theorem exists_bucketStarts_pace {p : Period} (insideStart : p.start.InsideBy 40) (insideStop : p.stop.InsideBy 40)
    (opens : r.Opens g p.start) :
    ∃ starts, (r.calendar weekStart).bucketStarts g p = .ok starts ∧
      p.stop.seconds - p.start.seconds ≤ g.usualSeconds * starts.length + 172800 := by
  have step : ∀ t, r.Opens g t ∧ p.start ≤ t → t < p.stop →
      ∃ n, (r.calendar weekStart).next g t = .ok (some n) ∧ (r.Opens g n ∧ p.start ≤ n) ∧ t < n ∧
        n.place - r.heldUp g.heldUpBy n.place ≤
          t.place - r.heldUp g.heldUpBy t.place + 2000000000 * g.usualSeconds := by
    rintro t ⟨opensT, since⟩ before
    obtain ⟨n, next, opensN, later, paced⟩ := next_pace weekStart lasting
      (insideStart.between insideStop since (le_of_lt before)) opensT
    exact ⟨n, next, ⟨opensN, le_trans since (le_of_lt later)⟩, later, paced⟩
  obtain ⟨starts, reached, yields, _, past, total⟩ := Calendar.exists_walk step ⟨opens, le_refl p.start⟩
  refine ⟨starts, Calendar.bucketStarts_eq_ok_iff.2 yields, ?_⟩
  have held := (r.heldUp_bounds g reached.place).2
  have before := (r.heldUp_bounds g p.start.place).1
  have stop : p.stop.place = p.stop.seconds * 2000000000 + p.stop.nanos := rfl
  rw [Moment.le_iff_place, stop] at past
  rw [Int.mul_assoc] at total
  rw [Moment.place_of_whole opens.whole] at total before
  omega

/-- Away from the ends the ceiling of an instant is a whole second, at most 40 days later. -/
theorem exists_ceil_near {t : Instant} (inside : t.InsideBy 80) :
    ∃ c, (r.calendar weekStart).ceil g t = .ok c ∧ c.nanos = 0 ∧ c.seconds ≤ t.seconds + 86400 * 40 := by
  obtain ⟨f, floor, opens⟩ := exists_floor_opens (r := r) (g := g) weekStart (inside.mono 40 (by decide))
  have near := Calendar.floor_near floor
  have insideF : f.InsideBy 40 := Calendar.floor_inside floor inside 40 (by decide)
  obtain ⟨n, next, _, _, paced⟩ := next_pace weekStart lasting insideF opens
  have usual := g.usualSeconds_bounds.2
  have held := (r.heldUp_bounds g n.place).2
  have before := (r.heldUp_bounds g f.place).1
  have nanos := Calendar.next_nanos next
  rw [Moment.place_of_whole nanos, Moment.place_of_whole opens.whole] at paced
  rw [Moment.place_of_whole nanos] at held
  rw [Moment.place_of_whole opens.whole] at before
  refine ⟨_, Calendar.ceil_of_floor floor next, ?_, ?_⟩
  · split_ifs
    · exact opens.whole
    · exact nanos
  · split_ifs
    · omega
    · omega

end FixedRule

end BucketPlan
