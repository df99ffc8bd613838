import BucketPlan.Proofs.Comparison.YearBack

/-!
Where the zone keeps one offset, the comparison with the year before is feasible when the
first and the last day of the period move back by as many days, and for weeks and months
always (`previousYear_feasible`). Otherwise the number of buckets changes, and the
comparison is refused. The refusal says so only when the other number would be allowed too
(`previousYear_keepsOrTells_iff`): a leap day can leave no bucket, less than none or one too
many, and then it is the selection of the year before that is refused.
-/

namespace BucketPlan

/-! ## What is said about a comparison -/

/-- The period is another one moved back by some days. -/
structure Period.MovedBack (p main : Period) (days : Int) : Prop where
  start : p.start.seconds = main.start.seconds - 86400 * days ∧ p.start.nanos = main.start.nanos
  stop : p.stop.seconds = main.stop.seconds - 86400 * days ∧ p.stop.nanos = main.stop.nanos
  timezone : p.timezone = main.timezone

namespace Calendar

/-- The local dates on which the first and the last bucket of a period start. -/
def EndDates (cal : Calendar) (g : Granularity) (p : Period) (first last : Date) : Prop :=
  ∃ starts a b, cal.bucketStarts g p = .ok starts ∧ starts.head? = some a ∧ starts.getLast? = some b ∧
    cal.dateOf a = .ok first ∧ cal.dateOf b = .ok last

/-- The instant is the local midnight with which a month begins. -/
def OpensMonth (cal : Calendar) (month : Int) (t : Instant) : Prop :=
  ∃ d : Date, cal.toLocal t = .ok (.midnight d) ∧ d.civil.monthIndex = month ∧ d.civil.day = 1

/-- The comparison with the year before keeps the number of buckets, or it is refused with
    the number that it would have instead. -/
def KeepsOrTells (cal : Calendar) (g : Granularity) (main : Period) : Prop :=
  ∃ m, cal.bucketCount g main = .ok m ∧
    ((∃ p, cal.resolveComparison g main .previousYear = .ok (some p) ∧ cal.bucketCount g p = .ok m) ∨
      ∃ c, c ≠ m ∧ cal.resolveComparison g main .previousYear =
        .error (.refused (.comparisonInfeasible .previousYear m c)))

variable {cal : Calendar} {g : Granularity} {main : Period}

theorem not_keepsOrTells {e : Refusal}
    (refused : cal.resolveComparison g main .previousYear = .error (.refused e))
    (other : ∀ m c, e ≠ .comparisonInfeasible .previousYear m c) : ¬ cal.KeepsOrTells g main := by
  rintro ⟨m, _, ⟨p, answer, _⟩ | ⟨c, _, answer⟩⟩
  · rw [refused] at answer
    cases answer
  · rw [refused] at answer
    cases answer
    exact other m c rfl

theorem keepsOrTells_of_counted {m c : Nat} {p : Period} (count : cal.bucketCount g main = .ok m)
    (counted : cal.bucketCount g p = .ok c)
    (decided : cal.resolveComparison g main .previousYear =
      if c = m then .ok (some p) else .error (.refused (.comparisonInfeasible .previousYear m c))) :
    cal.KeepsOrTells g main := by
  refine ⟨m, count, ?_⟩
  by_cases same : c = m
  · rw [if_pos same] at decided
    rw [same] at counted
    exact .inl ⟨p, decided, counted⟩
  · rw [if_neg same] at decided
    exact .inr ⟨c, same, decided⟩

end Calendar

namespace FixedRule

variable {r : FixedRule} {g : Granularity} {weekStart : Weekday} {main : Period} {i : Int} {m : Nat}

/-! ## From numbers of buckets to dates -/

/-- A period that goes back by as many buckets at both ends is moved back by as many days
    as these buckets always are. -/
theorem Spans.movedBack (spans : r.Spans g weekStart i m main) {p : Period} {back days : Int}
    (exact : ∀ k, g.mark weekStart (k - back) = g.mark weekStart k - 86400 * days)
    (spansP : r.Spans g weekStart (i - back) m p) : p.MovedBack main days := by
  have first := exact i
  have last := exact (i + m)
  rw [← spansP.start.second, ← spans.start.second] at first
  rw [show i + m - back = i - back + m by omega, ← spansP.stop.second, ← spans.stop.second] at last
  exact {
    start := ⟨by omega, spansP.start.whole.trans spans.start.whole.symm⟩
    stop := ⟨by omega, spansP.stop.whole.trans spans.stop.whole.symm⟩
    timezone := spansP.timezone.trans spans.timezone.symm }

section Steady
variable (steady : r.daylight = none)
include steady

theorem StartsBucket.dateOf {t : Instant} (starts : r.StartsBucket g weekStart i t) (inside : t.InsideBy 1) :
    ∃ d, (r.calendar weekStart).dateOf t = .ok d ∧ d.day = g.startDay weekStart i := by
  obtain ⟨d, date, exact⟩ := dateOf_spec r weekStart inside
  refine ⟨d, date, ?_⟩
  rw [exact (Moment.plain_of_whole starts.whole), dayAt_steady steady starts.whole, starts.second, Granularity.startDay]

theorem StartsBucket.opensMonth {t : Instant} (starts : r.StartsBucket .month weekStart i t)
    (inside : t.InsideBy 1) : (r.calendar weekStart).OpensMonth i t := by
  obtain ⟨l, shows, exact⟩ := toLocal_spec r inside
  obtain ⟨place, nanos⟩ := exact (Moment.plain_of_whole starts.whole)
  have second := starts.second
  simp only [Granularity.mark, Granularity.unitSeconds?, Granularity.leadDay] at second
  rw [shown, aheadAt_steady steady, Moment.place_of_whole (nanos.trans starts.whole),
    Moment.place_of_whole starts.whole] at place
  have day : l.date.day = monthStart i := by
    simp only [Moment.date]
    omega
  have first := Civil.monthStart_ofDay (monthStart i)
  rw [Civil.monthIndex_monthStart] at first
  refine ⟨l.date, ?_, ?_, ?_⟩
  · have midnight : l = .midnight l.date := by
      apply Moment.eq_of_seconds (nanos.trans starts.whole) rfl
      simp only [Moment.midnight]
      omega
    exact shows.trans (congrArg Except.ok midnight)
  · rw [Date.civil, day, Civil.monthIndex_monthStart]
  · rw [Date.civil, day]
    omega

theorem Spans.endDates (spans : r.Spans g weekStart i m main) (some_bucket : 0 < m)
    (insideStart : main.start.InsideBy 5000) (insideStop : main.stop.InsideBy 5000) :
    ∃ first last, (r.calendar weekStart).EndDates g main first last ∧ first.day = g.startDay weekStart i ∧
      last.day = g.startDay weekStart (i + m - 1) := by
  obtain ⟨starts, run, length, each⟩ :=
    exists_bucketStarts_steady steady (insideStart.mono 40 (by decide)) (insideStop.mono 40 (by decide))
      spans.start spans.stop
  have within := (Calendar.bucketStarts_eq_ok_iff.1 run).within rfl
  -- What is yielded somewhere lies between the ends, and its date is known.
  have date : ∀ (k : Nat) b, starts[k]? = some b →
      ∃ d, (r.calendar weekStart).dateOf b = .ok d ∧ d.day = g.startDay weekStart (i + k) := by
    intro k b found
    obtain ⟨low, high⟩ := within b (List.mem_of_getElem? found)
    exact (each k b found).dateOf steady ((insideStart.between insideStop low (le_of_lt high)).mono _ (by decide))
  obtain ⟨a, isFirst⟩ : ∃ a, starts[0]? = some a := ⟨_, List.getElem?_eq_getElem (by omega)⟩
  obtain ⟨b, isLast⟩ : ∃ b, starts[m - 1]? = some b := ⟨_, List.getElem?_eq_getElem (by omega)⟩
  obtain ⟨first, dateFirst, dayFirst⟩ := date _ _ isFirst
  obtain ⟨last, dateLast, dayLast⟩ := date _ _ isLast
  rw [Int.natCast_zero, Int.add_zero] at dayFirst
  rw [Int.natCast_sub some_bucket, ← Int.add_sub_assoc, Int.natCast_one] at dayLast
  refine ⟨first, last, ⟨starts, _, _, run, ?_, ?_, dateFirst, dateLast⟩, dayFirst, dayLast⟩
  · rw [List.head?_eq_getElem?, isFirst]
  · rw [List.getLast?_eq_getElem?, length, isLast]

end Steady

/-! ## Feasible comparisons -/

/-- By a steady clock days, hours and minutes are compared with the year before when the
    first and the last day of the period move back by as many days, and then the period is
    moved back by these. Weeks always move back by 53 weeks, months to the same months. -/
theorem previousYear_feasible (steady : r.daylight = none) {rawStart rawStop : Instant}
    (normalized : (r.calendar weekStart).normalize g rawStart rawStop = .ok main)
    (inside : main.start.InsideBy Moment.quarterCentury) :
    ∃ first last, (r.calendar weekStart).EndDates g main first last ∧
      match g with
      | .minute | .hour | .day =>
        ((∃ p, (r.calendar weekStart).resolveComparison g main .previousYear = .ok (some p)) ↔
          yearShift first.day = yearShift last.day) ∧
        ∀ p, (r.calendar weekStart).resolveComparison g main .previousYear = .ok (some p) →
          p.MovedBack main (yearShift first.day)
      | .week => ∃ p, (r.calendar weekStart).resolveComparison g main .previousYear = .ok (some p) ∧
        p.MovedBack main 371
      | .month => ∃ p i j, (r.calendar weekStart).resolveComparison g main .previousYear = .ok (some p) ∧
        (r.calendar weekStart).OpensMonth i main.start ∧ (r.calendar weekStart).OpensMonth j main.stop ∧
        (r.calendar weekStart).OpensMonth (i - 12) p.start ∧ (r.calendar weekStart).OpensMonth (j - 12) p.stop ∧
        p.timezone = main.timezone := by
  obtain ⟨i, m, spans, within, insideStart, insideStop⟩ := exists_spans_of_normalize steady normalized inside
  obtain ⟨first, last, dates, dayFirst, dayLast⟩ :=
    spans.endDates steady (Granularity.pos_of_contains within) insideStart insideStop
  have answers {p : Period} := resolve_previousYear_eq_ok_iff (p := p) steady spans insideStart insideStop within
  have exists_kept := exists_previousYear_kept steady spans insideStart insideStop within
  rw [← dayFirst, ← dayLast] at exists_kept answers
  refine ⟨first, last, dates, ?_⟩
  cases g with
  | minute | hour | day =>
    refine ⟨⟨?_, ?_⟩, ?_⟩
    · rintro ⟨p, answer⟩
      have stays := Granularity.yearBeforeBuckets_eq_iff.1 (answers.1 answer).1
      simpa only [reduceCtorEq, false_or] using stays
    · intro same
      obtain ⟨p, answer, _⟩ := exists_kept (Granularity.yearBeforeBuckets_eq_iff.2 (.inr (.inr same)))
      exact ⟨p, answer⟩
    · intro p answer
      obtain ⟨_, spansP⟩ := answers.1 answer
      rw [Granularity.yearBefore, ← dayFirst] at spansP
      refine spans.movedBack (fun k => ?_) spansP
      exact Granularity.mark_yearBack (by decide) (by decide) weekStart k _
  | week =>
    obtain ⟨p, answer, spansP⟩ := exists_kept (Granularity.yearBeforeBuckets_eq_iff.2 (.inl rfl))
    refine ⟨p, answer, spans.movedBack (fun k => ?_) spansP⟩
    simp only [Granularity.mark, Granularity.unitSeconds?, Granularity.leadDay, Granularity.yearBack]
    omega
  | month =>
    obtain ⟨p, answer, spansP⟩ := exists_kept (Granularity.yearBeforeBuckets_eq_iff.2 (.inr (.inl rfl)))
    have startsP : r.StartsBucket .month weekStart (i - (12 : Nat)) p.start := spansP.start
    have endsP : r.StartsBucket .month weekStart (i + m - (12 : Nat)) p.stop := by
      rw [show i + m - (12 : Nat) = i - 12 + m by omega]
      exact spansP.stop
    refine ⟨p, i, i + m, answer, ?_, ?_, ?_, ?_, spansP.timezone.trans spans.timezone.symm⟩
    · exact spans.start.opensMonth steady (insideStart.mono _ (by decide))
    · exact spans.stop.opensMonth steady (insideStop.mono _ (by decide))
    · exact startsP.opensMonth steady (spans.start.inside_back startsP (insideStart.mono _ (by decide)))
    · exact endsP.opensMonth steady (spans.stop.inside_back endsP (insideStop.mono _ (by decide)))

/-- The clock of Kolkata, which does not change. -/
def kolkata : FixedRule := ⟨"Asia/Kolkata", ⟨19800, by decide, by decide⟩, none⟩

/-- The first week of March 2024 in Kolkata. -/
def firstWeekOfMarch : Period where
  start := (Moment.ofSeconds? 1709231400).get (by decide)
  stop := (Moment.ofSeconds? 1709836200).get (by decide)
  timezone := "Asia/Kolkata"

theorem kolkata_feasible :
    ∃ first last, (kolkata.calendar .monday).EndDates .day firstWeekOfMarch first last ∧
      ((∃ p, (kolkata.calendar .monday).resolveComparison .day firstWeekOfMarch .previousYear = .ok (some p)) ↔
        yearShift first.day = yearShift last.day) ∧
      ∀ p, (kolkata.calendar .monday).resolveComparison .day firstWeekOfMarch .previousYear = .ok (some p) →
        p.MovedBack firstWeekOfMarch (yearShift first.day) := by
  have normalized : (kolkata.calendar .monday).normalize .day firstWeekOfMarch.start firstWeekOfMarch.stop =
      .ok firstWeekOfMarch := by decide +kernel
  exact previousYear_feasible (g := .day) rfl normalized (by decide)

/-! ## Refused comparisons -/

/-- By a steady clock the comparison with the year before keeps the number of buckets or
    tells the number that it would have, exactly when that number is within the bounds.
    Below zero the selection of the year before is reversed, and otherwise its number of
    buckets is refused. -/
theorem previousYear_keepsOrTells_iff (steady : r.daylight = none) {rawStart rawStop : Instant}
    (normalized : (r.calendar weekStart).normalize g rawStart rawStop = .ok main)
    (inside : main.start.InsideBy Moment.quarterCentury) :
    ∃ m first last, (r.calendar weekStart).bucketCount g main = .ok m ∧
      (r.calendar weekStart).EndDates g main first last ∧
      ((r.calendar weekStart).KeepsOrTells g main ↔ 1 ≤ g.yearBeforeBuckets m first.day last.day ∧
        g.yearBeforeBuckets m first.day last.day ≤ g.bounds.maxBuckets) ∧
      (g.yearBeforeBuckets m first.day last.day < 0 →
        ∃ start stop, (r.calendar weekStart).resolveComparison g main .previousYear =
          .error (.refused (.reversedPeriod start stop))) ∧
      (g.yearBeforeBuckets m first.day last.day = 0 ∨
          g.bounds.maxBuckets < g.yearBeforeBuckets m first.day last.day →
        (r.calendar weekStart).resolveComparison g main .previousYear =
          .error (.refused (.bucketsOutOfBounds g (g.yearBeforeBuckets m first.day last.day).toNat))) := by
  obtain ⟨i, m, spans, within, insideStart, insideStop⟩ := exists_spans_of_normalize steady normalized inside
  have some_bucket := Granularity.pos_of_contains within
  obtain ⟨first, last, dates, dayFirst, dayLast⟩ := spans.endDates steady some_bucket insideStart insideStop
  have count := spans.bucketCount steady (insideStart.mono _ (by decide)) (insideStop.mono _ (by decide))
  refine ⟨m, first, last, count, dates, ?_⟩
  rw [dayFirst, dayLast]
  generalize number : g.yearBeforeBuckets m (g.startDay weekStart i) (g.startDay weekStart (i + m - 1)) = c
  rcases Int.lt_or_le c 0 with negative | positive
  · obtain ⟨start, stop, refused⟩ :=
      resolve_previousYear_reversed steady spans insideStart insideStop (by rwa [number])
    have untold := Calendar.not_keepsOrTells refused (by simp)
    exact ⟨⟨fun told => absurd told untold, by omega⟩, fun _ => ⟨start, stop, refused⟩, by omega⟩
  · obtain ⟨n, rfl⟩ := Int.eq_ofNat_of_zero_le positive
    obtain ⟨p, _, counted, decided⟩ :=
      resolve_previousYear_counted steady spans insideStart insideStop some_bucket within.2 number
    have contains : g.bounds.Contains n ↔ 1 ≤ (n : Int) ∧ (n : Int) ≤ g.bounds.maxBuckets := by
      have least : g.bounds.minBuckets = 1 := by cases g <;> rfl
      unfold SpanBounds.Contains
      omega
    rw [← contains]
    refine ⟨⟨?_, ?_⟩, by omega, ?_⟩
    · intro told
      by_contra without
      rw [if_neg without] at decided
      exact Calendar.not_keepsOrTells decided (by simp) told
    · intro allowed
      rw [if_pos allowed] at decided
      exact Calendar.keepsOrTells_of_counted count counted decided
    · intro outside
      have without : ¬ g.bounds.Contains n := by
        rw [contains]
        omega
      rw [decided, if_neg without, Int.toNat_natCast]

/-- The clock of universal time. -/
def universal : FixedRule := ⟨"UTC", .utc, none⟩

/-- From noon on 28 February 2024 to six in the morning of 29 February. -/
def leapNight : Period where
  start := (Moment.ofSeconds? 1709121600).get (by decide)
  stop := (Moment.ofSeconds? 1709186400).get (by decide)
  timezone := "UTC"

theorem normalize_leapNight :
    (universal.calendar .monday).normalize .hour leapNight.start leapNight.stop = .ok leapNight := by decide +kernel

theorem leapNight_keepsOrTells_iff :
    ∃ m first last, (universal.calendar .monday).bucketCount .hour leapNight = .ok m ∧
      (universal.calendar .monday).EndDates .hour leapNight first last ∧
      ((universal.calendar .monday).KeepsOrTells .hour leapNight ↔
        1 ≤ Granularity.hour.yearBeforeBuckets m first.day last.day ∧
          Granularity.hour.yearBeforeBuckets m first.day last.day ≤ 2208) := by
  obtain ⟨m, first, last, count, dates, told, _⟩ :=
    previousYear_keepsOrTells_iff (g := .hour) rfl normalize_leapNight (by decide)
  exact ⟨m, first, last, count, dates, told⟩

/-- A year before, both days of the leap night are 28 February, so the night would end
    before it starts, and this is what the comparison is refused for. -/
theorem leapNight_reversed :
    universal.daylight = none ∧ leapNight.start.InsideBy Moment.quarterCentury ∧
      leapNight.stop.InsideBy Moment.quarterCentury ∧
      (universal.calendar .monday).normalize .hour leapNight.start leapNight.stop = .ok leapNight ∧
      (universal.calendar .monday).resolveComparison .hour leapNight .previousYear =
        .error (.refused (.reversedPeriod ((Moment.ofSeconds? 1677585600).get (by decide))
          ((Moment.ofSeconds? 1677564000).get (by decide)))) ∧
      ¬ (universal.calendar .monday).KeepsOrTells .hour leapNight := by
  have refused : (universal.calendar .monday).resolveComparison .hour leapNight .previousYear =
      .error (.refused (.reversedPeriod ((Moment.ofSeconds? 1677585600).get (by decide))
        ((Moment.ofSeconds? 1677564000).get (by decide)))) := by decide +kernel
  refine ⟨rfl, by decide, by decide, normalize_leapNight, refused, ?_⟩
  exact Calendar.not_keepsOrTells refused (by simp)

end FixedRule

end BucketPlan
