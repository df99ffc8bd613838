import BucketPlan.Proofs.Calendar.DateSpan
import BucketPlan.Proofs.Comparison.AlignedPeriods
import BucketPlan.Proofs.Plan.Consistency
import BucketPlan.Proofs.Service.BoundTexts

/-!
Beside a comparison both periods are shown as ranges of dates. A date is read as it was
written, and the first and the last date of an aligned period open and close it, so the
range of a period, sent back as a selection, has the ends of that period
(`reselects_of_aligned`), and the range of a comparison asks for the same comparison
again (`echoedRange_reselects`).
-/

namespace BucketPlan

namespace Calendar

variable {cal : Calendar} {g : Granularity} {p : Period}

/-- Sent back as the ends of a selection, in whatever field, the texts give the ends of
    the period. -/
def Reselects (cal : Calendar) (range : String × String) (p : Period) : Prop :=
  ∀ field, cal.readBound field .start range.1 = .ok p.start ∧ cal.readBound field .stop range.2 = .ok p.stop

theorem SpansDates.reselects {first last : Date} (spans : cal.SpansDates first last p.start p.stop) :
    cal.Reselects (first.text, last.text) p := by
  intro field
  rw [readBound_text, readBound_text]
  exact ⟨Overflow.lift_eq_ok_iff.2 spans.opens, Overflow.lift_eq_ok_iff.2 spans.closes⟩

theorem inclusiveRange_of_dateSpan (byDate : g.isCalendar = true) {first last : Date}
    (span : cal.dateSpan p.start p.stop = .ok (first, last)) :
    cal.inclusiveRange g p = .ok (first.text, last.text) := by
  simp only [dateSpan, bind_eq_ok_iff, pure_eq_ok_iff, Prod.mk.injEq] at span
  obtain ⟨before, moved, _, dateStart, _, dateLast, rfl, rfl⟩ := span
  simp only [inclusiveRange, byDate, if_true, moved, dateStart, dateLast, bind, Except.bind, pure, Except.pure]

end Calendar

namespace FixedRule

variable {r : FixedRule} {g : Granularity} (regular : r.Regular g) (byDate : g.isCalendar = true) (weekStart : Weekday)
include regular byDate

/-- The range of an aligned period selects it again. -/
theorem reselects_of_aligned {p : Period} (aligned : (r.calendar weekStart).AlignedPeriod g p)
    (inside : p.InsideBy 80) :
    ∃ range, (r.calendar weekStart).inclusiveRange g p = .ok range ∧ (r.calendar weekStart).Reselects range p := by
  obtain ⟨first, last, spans, low, high⟩ := exists_spansDates weekStart regular (Option.isNone_iff_eq_none.1 byDate)
    aligned.first aligned.last aligned.start_lt_stop inside.start inside.stop
  have span := dateSpan_of_spansDates weekStart spans regular low high
  exact ⟨_, Calendar.inclusiveRange_of_dateSpan byDate span, spans.reselects⟩

/-- Over a regular rule the range shown for a normalized period selects this period again,
    and the range shown for the comparison of an accepted plan, sent back as the ends of a
    comparison, resolves to the period that the plan compares with. -/
theorem echoedRange_reselects :
    (∀ rawStart rawStop p, (r.calendar weekStart).normalize g rawStart rawStop = .ok p →
      p.InsideBy Moment.quarterCentury → ∃ range, (r.calendar weekStart).inclusiveRange g p = .ok range ∧
        (r.calendar weekStart).Reselects range p) ∧
    ∀ siteId s q metadata, s.granularity = g → (r.calendar weekStart).plan siteId s = .ok q →
      q.comparison = some metadata → ∃ main compare,
        (r.calendar weekStart).normalize g s.start s.stop = .ok main ∧
        (r.calendar weekStart).resolveComparison g main s.compare = .ok (some compare) ∧
        q.queries = AnalyticsQuery.siteQueries
          ⟨main, some compare, g, s.filters, (r.calendar weekStart).zone.id, s.aux⟩ siteId ∧
        (main.InsideBy Moment.quarterCentury → (r.calendar weekStart).Reselects metadata.primaryRange main) ∧
        (compare.InsideBy Moment.quarterCentury →
          (r.calendar weekStart).Reselects metadata.comparisonRange compare ∧
          ∃ start stop,
            (r.calendar weekStart).readBound .compareStartDate .start metadata.comparisonRange.1 = .ok start ∧
            (r.calendar weekStart).readBound .compareEndDate .stop metadata.comparisonRange.2 = .ok stop ∧
            (r.calendar weekStart).resolveComparison g main (.custom start stop) = .ok (some compare)) := by
  have reselected : ∀ p, (r.calendar weekStart).AlignedPeriod g p → p.InsideBy Moment.quarterCentury →
      ∃ range, (r.calendar weekStart).inclusiveRange g p = .ok range ∧ (r.calendar weekStart).Reselects range p :=
    fun p aligned inside => reselects_of_aligned regular byDate weekStart aligned (inside.mono 80 (by decide))
  have selected : ∀ rawStart rawStop p, (r.calendar weekStart).normalize g rawStart rawStop = .ok p →
      p.InsideBy Moment.quarterCentury → (r.calendar weekStart).AlignedPeriod g p :=
    fun _ _ p normalized inside => alignedPeriod_of_normalize regular.aligns (inside.mono 200 (by decide)) normalized
  constructor
  · intro rawStart rawStop p normalized inside
    exact reselected p (selected _ _ p normalized inside) inside
  · rintro siteId s q metadata rfl accepted shown
    obtain ⟨main, compare, normalized, answer, queries, shows⟩ := Calendar.comparison_of_plan accepted shown
    simp only [Calendar.comparisonMetadata, bind_eq_ok_iff, pure_eq_ok_iff] at shows
    obtain ⟨primaryRange, rangeMain, comparisonRange, rangeCompare, rfl⟩ := shows
    refine ⟨main, compare, normalized, answer, queries, ?_, ?_⟩
    · intro inside
      obtain ⟨_, range, reselects⟩ := reselected main (selected _ _ main normalized inside) inside
      rw [rangeMain] at range
      cases range
      exact reselects
    · intro inside
      have aligned := alignedPeriod_of_comparison regular normalized answer inside
      obtain ⟨_, range, reselects⟩ := reselected compare aligned inside
      rw [rangeCompare] at range
      cases range
      exact ⟨reselects, _, _, (reselects .compareStartDate).1, (reselects .compareEndDate).2,
        Calendar.resolveComparison_custom answer aligned⟩

omit regular byDate

/-- The short day of New York and the day after it, compared with the days before. -/
def shortDay : Selection where
  start := .midnight ⟨19793, by decide, by decide⟩
  stop := .midnight ⟨19794, by decide, by decide⟩
  granularity := .day
  compare := .previousPeriod
  filters := []
  aux := {}

/-- The dates 8 and 9 March, shown beside the comparison of the short day, ask for it again. -/
theorem newYork2024_reselects :
    ∃ main compare range q metadata start stop,
      (newYork2024.calendar .monday).normalize .day shortDay.start shortDay.stop = .ok main ∧
      (newYork2024.calendar .monday).inclusiveRange .day main = .ok range ∧
      (newYork2024.calendar .monday).Reselects range main ∧
      (newYork2024.calendar .monday).plan "site" shortDay = .ok q ∧ q.comparison = some metadata ∧
      metadata.comparisonRange = ("2024-03-08", "2024-03-09") ∧
      (newYork2024.calendar .monday).readBound .compareStartDate .start "2024-03-08" = .ok start ∧
      (newYork2024.calendar .monday).readBound .compareEndDate .stop "2024-03-09" = .ok stop ∧
      (newYork2024.calendar .monday).resolveComparison .day main shortDay.compare = .ok (some compare) ∧
      (newYork2024.calendar .monday).resolveComparison .day main (.custom start stop) = .ok (some compare) := by
  obtain ⟨periods, plans⟩ := echoedRange_reselects (regular_newYork2024 .day) rfl .monday
  have normalized : (newYork2024.calendar .monday).normalize .day shortDay.start shortDay.stop =
      .ok ⟨(Moment.ofSeconds? 1710046800).get (by decide), (Moment.ofSeconds? 1710216000).get (by decide),
        "America/New_York"⟩ := by decide +kernel
  have answer : (newYork2024.calendar .monday).resolveComparison .day
      ⟨(Moment.ofSeconds? 1710046800).get (by decide), (Moment.ofSeconds? 1710216000).get (by decide),
        "America/New_York"⟩ .previousPeriod = .ok (some ⟨(Moment.ofSeconds? 1709874000).get (by decide),
        (Moment.ofSeconds? 1710046800).get (by decide), "America/New_York"⟩) := by decide +kernel
  have shows : (·.comparison) <$> (newYork2024.calendar .monday).plan "site" shortDay =
      .ok (some ⟨"previous_period", ("2024-03-10", "2024-03-11"), ("2024-03-08", "2024-03-09")⟩) := by decide +kernel
  obtain ⟨range, isRange, reselects⟩ := periods _ _ _ normalized ⟨by decide, by decide⟩
  obtain ⟨q, accepted, shown⟩ := map_eq_ok_iff.1 shows
  obtain ⟨main, compare, isMain, isCompare, _, _, compared⟩ := plans "site" shortDay q _ rfl accepted shown
  rw [normalized] at isMain
  cases isMain
  rw [show shortDay.compare = .previousPeriod from rfl, answer] at isCompare
  cases isCompare
  obtain ⟨_, start, stop, opens, closes, again⟩ := compared ⟨by decide, by decide⟩
  exact ⟨_, _, range, q, _, start, stop, normalized, isRange, reselects, accepted, shown, rfl, opens, closes, answer,
    again⟩

end FixedRule

end BucketPlan
