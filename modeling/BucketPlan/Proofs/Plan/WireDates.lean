import BucketPlan.Proofs.Comparison.AlignedPeriods
import BucketPlan.Proofs.Moment.Wire
import BucketPlan.Proofs.Plan.Consistency

/-!
The store is given the ends of a period to the second. Nothing is lost: whatever fractions a
selection has, the ends of its period and of the one it is compared with are whole seconds
(`normalize_whole`, `comparePeriod_whole`). So the dates of a query stand for one period alone,
and where the years have four digits its first date is the smaller text (`plan_wireDates`).
-/

namespace BucketPlan

/-- Both ends are whole seconds, outside leap seconds. -/
def Period.Whole (p : Period) : Prop := p.start.nanos = 0 ∧ p.stop.nanos = 0

/-- The dates of the query are those of the period, and of no other whole period. -/
structure SiteQuery.Dates (query : SiteQuery) (p : Period) : Prop where
  whole : p.Whole
  written : query.startDate = p.start.wireText ∧ query.endDate = p.stop.wireText
  unique : ∀ start stop : Instant, start.nanos = 0 → stop.nanos = 0 → query.startDate = start.wireText →
    query.endDate = stop.wireText → start = p.start ∧ stop = p.stop
  ordered : p.start.FourDigitYear → p.stop.FourDigitYear → query.startDate < query.endDate

theorem AnalyticsQuery.siteQuery_dates (query : AnalyticsQuery) (siteId : String) {p : Period} (whole : p.Whole)
    (order : p.start < p.stop) : (query.siteQuery siteId p).Dates p where
  whole := whole
  written := ⟨rfl, rfl⟩
  unique := by
    intro start stop wholeStart wholeStop sameStart sameStop
    exact ⟨(Moment.wireText_injective whole.1 wholeStart sameStart).symm,
      (Moment.wireText_injective whole.2 wholeStop sameStop).symm⟩
  ordered := by
    intro fourStart fourStop
    exact (Moment.wireText_lt_iff whole.1 whole.2 fourStart fourStop).2 order

namespace Calendar

variable {cal : Calendar} {g : Granularity} {main p : Period}

/-! ## Whole periods -/

/-- Whatever fractions a selection has, the ends of its period are whole seconds. -/
theorem normalize_whole {rawStart rawStop : Instant} (run : cal.normalize g rawStart rawStop = .ok p) : p.Whole := by
  obtain ⟨_, start, stop, floor, ceil, _, bounded⟩ := normalize_eq_ok_iff.1 run
  obtain ⟨_, rfl, _⟩ := boundedPeriod_eq_ok_iff.1 bounded
  exact ⟨floor_nanos floor, ceil_nanos ceil⟩

theorem previousPeriod_whole {n : Nat} (positive : 0 < n) (whole : main.Whole)
    (run : cal.previousPeriod g main n = .ok p) : p.Whole := by
  simp only [previousPeriod, bind_eq_ok_iff, pure_eq_ok_iff, Overflow.monadLift_eq_ok_iff, orRefused_eq_ok_iff] at run
  obtain ⟨reached, steps, start, rfl, rfl⟩ := run
  rw [step_neg n main.start positive] at steps
  exact ⟨walk_previous_nanos n whole.1 steps, whole.1⟩

/-- Whatever a whole period is compared with is whole as well. -/
theorem comparePeriod_whole {n : Nat} {mode : CompareMode} (positive : 0 < n) (whole : main.Whole)
    (run : cal.comparePeriod g main n mode = .ok (some p)) : p.Whole := by
  cases mode with
  | off => cases run
  | previousPeriod =>
    obtain ⟨_, derived, same⟩ := map_eq_ok_iff.1 run
    cases same
    exact previousPeriod_whole positive whole derived
  | previousYear =>
    obtain ⟨_, derived, same⟩ := map_eq_ok_iff.1 run
    cases same
    obtain ⟨_, _, normalized⟩ := exists_normalize_of_previousYear derived
    exact normalize_whole normalized
  | custom start stop =>
    obtain ⟨_, normalized, same⟩ := map_eq_ok_iff.1 run
    cases same
    exact normalize_whole normalized

/-! ## Accepted plans -/

/-- The dates in the queries of a plan lose nothing, whatever the zone answers. Each query has the
    dates of one period of whole seconds and of no other, since the texts of whole seconds differ in
    all representable years; and in the years of four digits the texts are in order as the seconds
    are, so the first date of a query is the smaller text. -/
theorem plan_wireDates (cal : Calendar) :
    (∀ siteId s q, cal.plan siteId s = .ok q → ∃ main compare,
      cal.normalize s.granularity s.start s.stop = .ok main ∧
      cal.resolveComparison s.granularity main s.compare = .ok compare ∧
      q.queries.main.Dates main ∧ Option.Rel SiteQuery.Dates q.queries.compare compare) ∧
    (∀ a b : Instant, a.nanos = 0 → b.nanos = 0 → a.wireText = b.wireText → a = b) ∧
    ∀ a b : Instant, a.nanos = 0 → b.nanos = 0 → a.FourDigitYear → b.FourDigitYear →
      (a.wireText < b.wireText ↔ a < b) := by
  refine ⟨?_, fun _ _ => Moment.wireText_injective, fun _ _ => Moment.wireText_lt_iff⟩
  intro siteId s q accepted
  obtain ⟨query, resolved, queries, _⟩ := plan_of_ok accepted
  obtain ⟨main, compare, normalized, compared, rfl⟩ := analyticsQuery_of_ok resolved
  obtain ⟨n, count, asked, even⟩ := resolveComparison_eq_ok_iff.1 compared
  obtain ⟨k, again, bounded⟩ := normalize_count normalized
  rw [count] at again
  cases again
  have positive := Granularity.pos_of_contains bounded
  have whole := normalize_whole normalized
  refine ⟨main, compare, normalized, compared, ?_, ?_⟩
  · rw [queries]
    exact AnalyticsQuery.siteQuery_dates _ siteId whole ((pos_bucketCount_iff count).1 positive)
  · rw [queries]
    cases compare with
    | none => exact .none
    | some p =>
      exact .some (AnalyticsQuery.siteQuery_dates _ siteId (comparePeriod_whole positive whole asked)
        ((pos_bucketCount_iff (even p rfl)).1 positive))

/-- Three days around a switch of the clock, with fractions in both ends, compared with three days
    that begin in a leap second. -/
def switchInFractions : Selection where
  start := (Moment.ofParts? 1710022500 250000000).get (by decide)
  stop := (Moment.ofParts? 1710162000 1).get (by decide)
  granularity := .day
  compare := .custom ((Moment.ofParts? 1483228799 1500000000).get (by decide))
    ((Moment.ofParts? 1483358400 999999999).get (by decide))
  filters := []
  aux := {}

/-- The first of them, in New York: from 9 to 11 March 2024. -/
def switchDays : Period where
  start := (Moment.ofSeconds? 1709960400).get (by decide)
  stop := (Moment.ofSeconds? 1710216000).get (by decide)
  timezone := "America/New_York"

/-- The others: the turn of the year 2017 with the days around it. -/
def turnOfYearDays : Period where
  start := (Moment.ofSeconds? 1483160400).get (by decide)
  stop := (Moment.ofSeconds? 1483419600).get (by decide)
  timezone := "America/New_York"

theorem switchInFractions_wireDates :
    ∃ q, (FixedRule.newYork2024.calendar .monday).plan "site" switchInFractions = .ok q ∧
      q.queries.main.Dates switchDays ∧ Option.Rel SiteQuery.Dates q.queries.compare (some turnOfYearDays) ∧
      q.queries.main.startDate < q.queries.main.endDate := by
  have accepted : ((FixedRule.newYork2024.calendar .monday).plan "site" switchInFractions).isOk = true := by
    decide +kernel
  have normalized : (FixedRule.newYork2024.calendar .monday).normalize .day switchInFractions.start
      switchInFractions.stop = .ok switchDays := by decide +kernel
  have compared : (FixedRule.newYork2024.calendar .monday).resolveComparison .day switchDays
      switchInFractions.compare = .ok (some turnOfYearDays) := by decide +kernel
  cases run : (FixedRule.newYork2024.calendar .monday).plan "site" switchInFractions with
  | error e => rw [run] at accepted; cases accepted
  | ok q =>
    obtain ⟨main, compare, isMain, isCompare, dates, beside⟩ :=
      (plan_wireDates (FixedRule.newYork2024.calendar .monday)).1 "site" switchInFractions q run
    cases normalized.symm.trans isMain
    cases compared.symm.trans isCompare
    exact ⟨q, rfl, dates, beside, dates.ordered (by decide) (by decide)⟩

end Calendar

end BucketPlan
