import BucketPlan.Proofs.Calendar.Steady
import BucketPlan.Proofs.Comparison.Resolved
import BucketPlan.Proofs.Period.EarlyCheck

/-!
The comparison with the year before moves the first and the last bucket of a period back,
each by the days that its own date moves, and looks for the buckets there. By a steady
clock it is known which these are (`yearBefore`), so the number of buckets between them is
known too (`yearBeforeBuckets`). Where it is negative the selection is reversed, and
otherwise this number decides what becomes of the comparison
(`resolve_previousYear_reversed`, `resolve_previousYear_counted`).
-/

namespace BucketPlan

/-! ## Buckets of a year -/

namespace Granularity

/-- The local day on which the bucket with number `i` starts. -/
def startDay (g : Granularity) (weekStart : Weekday) (i : Int) : Int := g.mark weekStart i / 86400

/-- The number of buckets to go back to the one that holds the start of a bucket moved back
    by a year of so many days. -/
def yearBack (g : Granularity) (days : Int) : Int :=
  match g with
  | minute => 1440 * days
  | hour => 24 * days
  | day => days
  | week => 53
  | month => 12

/-- The number of the bucket that holds the start of bucket `i` moved back by a year. -/
def yearBefore (g : Granularity) (weekStart : Weekday) (i : Int) : Int :=
  i - g.yearBack (yearShift (g.startDay weekStart i))

/-- The number of buckets between two buckets that are each moved back by a year, when
    there are `n` from the one on day `first` to the one on day `last`. -/
def yearBeforeBuckets (g : Granularity) (n : Nat) (first last : Int) : Int :=
  n + g.yearBack (yearShift first) - g.yearBack (yearShift last)

variable {g : Granularity} {weekStart : Weekday}

theorem mark_yearBack (notWeek : g ≠ .week) (notMonth : g ≠ .month) (weekStart : Weekday) (i days : Int) :
    g.mark weekStart (i - g.yearBack days) = g.mark weekStart i - 86400 * days := by
  cases g with
  | minute | hour | day => simp only [mark, unitSeconds?, leadDay, yearBack]; omega
  | week => exact absurd rfl notWeek
  | month => exact absurd rfl notMonth

/-- A bucket's start moved back by a year lies in the bucket so many before; but for weeks
    it is the start of that bucket. -/
theorem mark_yearBefore (g : Granularity) (weekStart : Weekday) (i : Int) :
    g.mark weekStart (g.yearBefore weekStart i) ≤ g.mark weekStart i - 86400 * yearShift (g.startDay weekStart i) ∧
      g.mark weekStart i - 86400 * yearShift (g.startDay weekStart i) <
        g.mark weekStart (g.yearBefore weekStart i + 1) ∧
      (g ≠ .week → g.mark weekStart (g.yearBefore weekStart i) =
        g.mark weekStart i - 86400 * yearShift (g.startDay weekStart i)) := by
  have later := (mark_succ_bounds g weekStart (g.yearBefore weekStart i)).1
  have exact (notWeek : g ≠ .week) (notMonth : g ≠ .month) :=
    mark_yearBack notWeek notMonth weekStart i (yearShift (g.startDay weekStart i))
  unfold yearBefore at *
  cases g with
  | week =>
    -- Both 365 and 366 days lead from the start of a week into the week 53 before.
    have days := yearShift_eq (Granularity.week.startDay weekStart i)
    refine ⟨?_, ?_, fun notWeek => absurd rfl notWeek⟩
    · simp only [mark, unitSeconds?, leadDay, yearBack] at *
      omega
    · simp only [mark, unitSeconds?, leadDay, yearBack] at *
      omega
  | month =>
    have day : Granularity.month.startDay weekStart i = monthStart i := by
      simp only [startDay, mark, unitSeconds?, leadDay]
      omega
    have back := monthStart_year i
    rw [day] at *
    simp only [mark, unitSeconds?, leadDay, yearBack] at *
    omega
  | minute | hour | day =>
    rw [exact (by decide) (by decide)] at later ⊢
    exact ⟨Int.le_refl _, later, fun _ => rfl⟩

/-- The number of buckets of weeks and months stays; other ones stay as many when both ends
    move by as many days. -/
theorem yearBeforeBuckets_eq_iff {n : Nat} {first last : Int} :
    g.yearBeforeBuckets n first last = n ↔ g = .week ∨ g = .month ∨ yearShift first = yearShift last := by
  unfold yearBeforeBuckets
  cases g with
  | minute | hour | day => simp only [yearBack, reduceCtorEq, false_or]; omega
  | week | month => simp [yearBack]

theorem yearBefore_last (i : Int) (n : Nat) :
    g.yearBefore weekStart (i + n - 1) + 1 = g.yearBefore weekStart i +
      g.yearBeforeBuckets n (g.startDay weekStart i) (g.startDay weekStart (i + n - 1)) := by
  unfold yearBefore yearBeforeBuckets
  omega

/-- The first bucket moved back starts no later than so many buckets on, unless there are
    less than none. -/
theorem mark_year_le {i : Int} {n c : Nat} (some_bucket : 0 < n)
    (number : g.yearBeforeBuckets n (g.startDay weekStart i) (g.startDay weekStart (i + n - 1)) = c) :
    g.mark weekStart i - 86400 * yearShift (g.startDay weekStart i) ≤
      g.mark weekStart (g.yearBefore weekStart i + c) := by
  obtain ⟨_, high, exact⟩ := g.mark_yearBefore weekStart i
  rcases Nat.eq_zero_or_pos c with none | positive
  · -- Weeks keep their number, so it is the start of a bucket that is moved back.
    have notWeek : g ≠ .week := by
      rintro rfl
      simp only [yearBeforeBuckets, yearBack] at number
      omega
    rw [none, Int.natCast_zero, Int.add_zero, exact notWeek]
  · refine Int.le_trans (Int.le_of_lt high) ?_
    rw [mark_le_iff, markIndex_mark]
    omega

theorem yearBeforeBuckets_short {n : Nat} (few : n ≤ g.bounds.maxBuckets) (first last : Int) :
    g.usualSeconds * g.yearBeforeBuckets n first last ≤ g.usualSeconds * g.bounds.maxBuckets + 86400 := by
  have daysFirst := yearShift_eq first
  have daysLast := yearShift_eq last
  unfold yearBeforeBuckets
  cases g with
  | minute | hour | day | week | month =>
    simp only [usualSeconds, unitSeconds?, longestDays, yearBack, bounds] at *
    omega

end Granularity

/-! ## Periods of known buckets -/

namespace FixedRule

/-- The period reaches over `n` buckets, from the start of bucket `i`. -/
structure Spans (r : FixedRule) (g : Granularity) (weekStart : Weekday) (i : Int) (n : Nat) (p : Period) : Prop where
  start : r.StartsBucket g weekStart i p.start
  stop : r.StartsBucket g weekStart (i + n) p.stop
  timezone : p.timezone = r.id

variable {r : FixedRule} {g : Granularity} {weekStart : Weekday}

theorem Spans.unique {i : Int} {n : Nat} {p q : Period} (spansP : r.Spans g weekStart i n p)
    (spansQ : r.Spans g weekStart i n q) : p = q := by
  cases p
  cases q
  rw [Period.mk.injEq]
  refine ⟨spansP.start.unique spansQ.start, spansP.stop.unique spansQ.stop, ?_⟩
  exact spansP.timezone.trans spansQ.timezone.symm

section Steady
variable (steady : r.daylight = none)
include steady

theorem Spans.bucketCount {i : Int} {n : Nat} {p : Period} (spans : r.Spans g weekStart i n p)
    (insideStart : p.start.InsideBy 40) (insideStop : p.stop.InsideBy 40) :
    (r.calendar weekStart).bucketCount g p = .ok n := by
  obtain ⟨starts, run, length, _⟩ := exists_bucketStarts_steady steady insideStart insideStop spans.start spans.stop
  exact Calendar.bucketCount_eq_ok_iff.2 ⟨starts, run, length⟩

/-- A normalized period away from the ends reaches over a number of buckets within the
    bounds. -/
theorem exists_spans_of_normalize {rawStart rawStop : Instant} {main : Period}
    (normalized : (r.calendar weekStart).normalize g rawStart rawStop = .ok main)
    (inside : main.start.InsideBy Moment.quarterCentury) :
    ∃ i n, r.Spans g weekStart i n main ∧ g.bounds.Contains n ∧ main.start.InsideBy 5000 ∧
      main.stop.InsideBy 5000 := by
  obtain ⟨insideStart, insideStop, insideRawStart, insideRawStop⟩ := Calendar.normalize_inside normalized inside
  obtain ⟨_, start, stop, floor, ceil, le, bounded⟩ := Calendar.normalize_eq_ok_iff.1 normalized
  obtain ⟨_, rfl, n, count, within⟩ := Calendar.boundedPeriod_eq_ok_iff.1 bounded
  have aligns := (regular_of_steady steady g).aligns
  obtain ⟨_, isFloor, first⟩ := aligns.floor weekStart insideRawStart
  obtain ⟨_, isCeil, last⟩ := aligns.ceil weekStart insideRawStop
  rw [floor] at isFloor
  rw [ceil] at isCeil
  cases isFloor
  cases isCeil
  obtain ⟨i, starts⟩ := exists_startsBucket steady (insideStart.mono _ (by decide)) first
  obtain ⟨j, ends⟩ := exists_startsBucket steady (insideStop.mono _ (by decide)) last
  have forward : i ≤ j := by rwa [← Int.not_lt, ← ends.lt_iff starts, not_lt]
  have spans : r.Spans g weekStart i (j - i).toNat ⟨start, stop, r.id⟩ :=
    ⟨starts, by rwa [Int.toNat_of_nonneg (by omega), Int.add_comm, Int.sub_add_cancel], rfl⟩
  have counted := spans.bucketCount steady (insideStart.mono _ (by decide)) (insideStop.mono _ (by decide))
  have same : n = (j - i).toNat := Except.ok.inj (count.symm.trans counted)
  exact ⟨i, n, by rwa [same], within, insideStart, insideStop⟩

/-- A selection of a whole second up to the start of a bucket has the period of known
    buckets, when these are within the bounds. -/
theorem normalize_steady {rawStart rawStop : Instant} (insideStart : rawStart.InsideBy 80)
    (insideStop : rawStop.InsideBy 40) (whole : rawStart.nanos = 0) {i : Int} {n : Nat}
    (index : g.markIndex weekStart (rawStart.seconds + r.standard.seconds) = i)
    (ends : r.StartsBucket g weekStart (i + n) rawStop) (order : rawStart ≤ rawStop)
    (short : g.usualSeconds * n ≤ g.usualSeconds * g.bounds.maxBuckets + 172800) :
    ∃ p, r.Spans g weekStart i n p ∧ p.start.InsideBy 40 ∧ p.stop.InsideBy 40 ∧
      (r.calendar weekStart).normalize g rawStart rawStop =
        if g.bounds.Contains n then .ok p else .error (.refused (.bucketsOutOfBounds g n)) := by
  obtain ⟨start, floor, starts⟩ := floor_steady (g := g) steady weekStart (insideStart.mono 40 (by decide)) whole
  rw [index] at starts
  have ceil := (ends.boundary steady insideStop).ceil
  have spans : r.Spans g weekStart i n ⟨start, rawStop, r.id⟩ := ⟨starts, ends, rfl⟩
  have insideFloor : start.InsideBy 40 := Calendar.floor_inside floor insideStart 40 (by decide)
  have count := spans.bucketCount steady insideFloor insideStop
  have le : start ≤ rawStop := by
    rw [← not_lt, ends.lt_iff starts]
    omega
  have passes : leastBuckets g start rawStop ≤ g.bounds.maxBuckets := by
    have reach := g.mark_add_le weekStart i n
    have first := starts.second
    have last := ends.second
    exact Calendar.leastBuckets_le starts.whole ends.whole (by omega)
  refine ⟨_, spans, insideFloor, insideStop, ?_⟩
  rw [Calendar.normalize_of_ends order floor ceil le, Calendar.boundedPeriod_of_count passes count]
  rfl

/-! ## The comparison -/

/-- The start of a bucket moved back by a year lies in the bucket so many before, and the
    calendar leads from it to the start of the bucket after that. -/
theorem StartsBucket.yearBack_steady {i : Int} {t : Instant} (starts : r.StartsBucket g weekStart i t)
    (inside : t.InsideBy 4900) :
    ∃ e f n, (r.calendar weekStart).yearEarlier t = .ok (some e) ∧ (r.calendar weekStart).floor g e = .ok f ∧
      (r.calendar weekStart).next g f = .ok (some n) ∧
      r.StartsBucket g weekStart (g.yearBefore weekStart i + 1) n ∧ n.InsideBy 4000 := by
  obtain ⟨e, back, whole, seconds⟩ := yearEarlier_steady steady weekStart (inside.mono _ (by decide)) starts.whole
  have days := yearShift_eq (g.startDay weekStart i)
  rw [starts.second, ← Granularity.startDay] at seconds
  have insideE : e.InsideBy 4500 := by rw [Moment.insideBy_def] at *; omega
  obtain ⟨f, floor, startsF⟩ := floor_steady (g := g) steady weekStart (insideE.mono 40 (by decide)) whole
  have index : g.markIndex weekStart (e.seconds + r.standard.seconds) = g.yearBefore weekStart i := by
    obtain ⟨low, high, _⟩ := g.mark_yearBefore weekStart i
    have second := starts.second
    exact Granularity.markIndex_eq (by omega) (by omega)
  rw [index] at startsF
  have insideF : f.InsideBy 4400 := Calendar.floor_inside floor insideE 4400 (by decide)
  obtain ⟨n, next, startsN⟩ := next_steady steady (insideF.mono _ (by decide)) startsF
  refine ⟨e, f, n, back, floor, next, startsN, ?_⟩
  have length := g.mark_succ_bounds weekStart (g.yearBefore weekStart i)
  have usual := g.usualSeconds_bounds
  rw [← startsN.second, ← startsF.second] at length
  rw [Moment.insideBy_def] at *
  omega

section Main
variable {main : Period} {i : Int} {m : Nat} (spans : r.Spans g weekStart i m main)
  (insideStart : main.start.InsideBy 5000) (insideStop : main.stop.InsideBy 5000)
include spans insideStart insideStop

/-- The period of the year before is what the first bucket moved back, up to the end of
    the last bucket moved back, is normalized to. -/
theorem previousYear_steady :
    ∃ start stop, (r.calendar weekStart).previousYear g main m = (r.calendar weekStart).normalize g start stop ∧
      start.nanos = 0 ∧ start.seconds + r.standard.seconds =
        g.mark weekStart i - 86400 * yearShift (g.startDay weekStart i) ∧
      r.StartsBucket g weekStart (g.yearBefore weekStart (i + m - 1) + 1) stop ∧
      start.InsideBy 4000 ∧ stop.InsideBy 4000 := by
  obtain ⟨last, before, startsLast⟩ := previous_steady steady (insideStop.mono _ (by decide)) spans.stop
  have insideLast : last.InsideBy 4900 := spans.stop.inside_back (n := 1) startsLast (insideStop.mono _ (by decide))
  obtain ⟨lastBack, floored, stop, back, floor, next, ends, nearStop⟩ := startsLast.yearBack_steady steady insideLast
  obtain ⟨start, startBack, whole, seconds⟩ :=
    yearEarlier_steady steady weekStart (insideStart.mono _ (by decide)) spans.start.whole
  rw [spans.start.second, ← Granularity.startDay] at seconds
  have days := yearShift_eq (g.startDay weekStart i)
  refine ⟨start, stop, ?_, whole, ?_, ends, ?_, nearStop⟩
  · simp only [Calendar.previousYear, before, startBack, back, floor, next, Calendar.orRefused, liftM, monadLift,
      MonadLift.monadLift, Overflow.lift, bind, Except.bind]
  · have second := spans.start.second
    omega
  · rw [Moment.insideBy_def] at *
    omega

/-- Where the last bucket moves back before the first, the selection is reversed. -/
theorem resolve_previousYear_reversed
    (number : g.yearBeforeBuckets m (g.startDay weekStart i) (g.startDay weekStart (i + m - 1)) < 0) :
    ∃ start stop, (r.calendar weekStart).resolveComparison g main .previousYear =
      .error (.refused (.reversedPeriod start stop)) := by
  obtain ⟨start, stop, derived, whole, second, ends, _, _⟩ :=
    previousYear_steady steady spans insideStart insideStop
  have notWeek : g ≠ .week := by
    rintro rfl
    simp only [Granularity.yearBeforeBuckets, Granularity.yearBack] at number
    omega
  have starts : r.StartsBucket g weekStart (g.yearBefore weekStart i) start :=
    ⟨whole, by rw [second, (g.mark_yearBefore weekStart i).2.2 notWeek]⟩
  have reversed : stop < start := by
    rw [ends.lt_iff starts, Granularity.yearBefore_last]
    omega
  have count := spans.bucketCount steady (insideStart.mono _ (by decide)) (insideStop.mono _ (by decide))
  have asked : (r.calendar weekStart).comparePeriod g main m .previousYear =
      .error (.refused (.reversedPeriod start stop)) := by
    rw [Calendar.comparePeriod, derived, Calendar.normalize, if_pos reversed]
    rfl
  exact ⟨start, stop, Calendar.resolveComparison_of_error count asked⟩

/-- Where the ends moved back are not reversed, the number of buckets between them decides:
    it is kept, or it differs, or it is out of bounds. -/
theorem resolve_previousYear_counted (some_bucket : 0 < m) (few : m ≤ g.bounds.maxBuckets) {c : Nat}
    (number : g.yearBeforeBuckets m (g.startDay weekStart i) (g.startDay weekStart (i + m - 1)) = c) :
    ∃ p, r.Spans g weekStart (g.yearBefore weekStart i) c p ∧
      (r.calendar weekStart).bucketCount g p = .ok c ∧
      (r.calendar weekStart).resolveComparison g main .previousYear =
        if g.bounds.Contains c then
          if c = m then .ok (some p) else .error (.refused (.comparisonInfeasible .previousYear m c))
        else .error (.refused (.bucketsOutOfBounds g c)) := by
  obtain ⟨start, stop, derived, whole, second, ends, nearStart, nearStop⟩ :=
    previousYear_steady steady spans insideStart insideStop
  obtain ⟨low, high, _⟩ := g.mark_yearBefore weekStart i
  have forward := Granularity.mark_year_le some_bucket number
  rw [Granularity.yearBefore_last, number] at ends
  have order : start ≤ stop := by
    rw [Moment.le_iff_seconds whole]
    have last := ends.second
    omega
  have short := Granularity.yearBeforeBuckets_short few (g.startDay weekStart i) (g.startDay weekStart (i + m - 1))
  rw [number] at short
  have index : g.markIndex weekStart (start.seconds + r.standard.seconds) = g.yearBefore weekStart i := by
    rw [second]
    exact Granularity.markIndex_eq low high
  obtain ⟨p, spansP, insideP, insideStopP, normalized⟩ :=
    normalize_steady steady (nearStart.mono _ (by decide)) (nearStop.mono _ (by decide)) whole index
      ends order (by omega)
  have count := spans.bucketCount steady (insideStart.mono _ (by decide)) (insideStop.mono _ (by decide))
  have counted := spansP.bucketCount steady insideP insideStopP
  refine ⟨p, spansP, counted, ?_⟩
  rw [normalized] at derived
  split at derived
  · next within =>
    have asked : (r.calendar weekStart).comparePeriod g main m .previousYear = .ok (some p) :=
      map_eq_ok_iff.2 ⟨p, derived, rfl⟩
    rw [if_pos within, Calendar.resolveComparison_of_period count asked counted]
    rfl
  · next without =>
    have asked : (r.calendar weekStart).comparePeriod g main m .previousYear =
        .error (.refused (.bucketsOutOfBounds g c)) := by
      rw [Calendar.comparePeriod, derived]
      rfl
    rw [if_neg without, Calendar.resolveComparison_of_error count asked]

/-- The comparison has an answer when the number of buckets stays, and then it is the period
    of as many buckets a year before. -/
theorem resolve_previousYear_eq_ok_iff (within : g.bounds.Contains m) {p : Period} :
    (r.calendar weekStart).resolveComparison g main .previousYear = .ok (some p) ↔
      g.yearBeforeBuckets m (g.startDay weekStart i) (g.startDay weekStart (i + m - 1)) = m ∧
        r.Spans g weekStart (g.yearBefore weekStart i) m p := by
  have some_bucket := Granularity.pos_of_contains within
  rcases Int.lt_or_le (g.yearBeforeBuckets m (g.startDay weekStart i) (g.startDay weekStart (i + m - 1))) 0
    with reversed | forward
  · obtain ⟨start, stop, refused⟩ := resolve_previousYear_reversed steady spans insideStart insideStop reversed
    rw [refused]
    simp only [reduceCtorEq, false_iff]
    rintro ⟨kept, _⟩
    omega
  · obtain ⟨q, spansQ, _, decided⟩ := resolve_previousYear_counted steady spans insideStart insideStop some_bucket
      within.2 (Int.toNat_of_nonneg forward).symm
    rw [decided]
    constructor
    · intro answer
      split at answer
      · split at answer
        · next same =>
          cases answer
          rw [same] at spansQ
          exact ⟨by omega, spansQ⟩
        · cases answer
      · cases answer
    · rintro ⟨kept, spansP⟩
      rw [kept, Int.toNat_natCast] at spansQ ⊢
      rw [if_pos within, if_pos rfl, spansQ.unique spansP]

theorem exists_previousYear_kept (within : g.bounds.Contains m)
    (kept : g.yearBeforeBuckets m (g.startDay weekStart i) (g.startDay weekStart (i + m - 1)) = m) :
    ∃ p, (r.calendar weekStart).resolveComparison g main .previousYear = .ok (some p) ∧
      r.Spans g weekStart (g.yearBefore weekStart i) m p := by
  obtain ⟨p, spansP, _, _⟩ := resolve_previousYear_counted steady spans insideStart insideStop
    (Granularity.pos_of_contains within) within.2 kept
  have answer := (resolve_previousYear_eq_ok_iff steady spans insideStart insideStop within).2 ⟨kept, spansP⟩
  exact ⟨p, answer, spansP⟩

end Main

end Steady

end FixedRule

end BucketPlan
