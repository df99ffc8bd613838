import BucketPlan.Proofs.Limits.PreviousPeriod
import BucketPlan.Proofs.Limits.PreviousYear
import BucketPlan.Proofs.Plan.Consistency
import BucketPlan.Service.App
import Mathlib.Control.Traversable.Instances

namespace BucketPlan.Calendar

variable {cal : Calendar} {g : Granularity} {early late : Offset} {main : Period} {n : Nat} {mode : CompareMode}

/-- The comparison of an accepted period leaves the representable years. -/
def Overruns (cal : Calendar) (early : Offset) (g : Granularity) (main : Period) (n : Nat) : CompareMode → Prop
  | .off => False
  | .previousPeriod => cal.RunsOut early g main.start n
  | .previousYear => cal.YearCutOff early g main.start
  | .custom start stop => start ≤ stop ∧ cal.CutOff early g start

/-- The ends of a custom comparison bound a selection. -/
def BoundsComparison (cal : Calendar) : CompareMode → Prop
  | .custom start stop => cal.Bounding start ∧ cal.Bounding stop
  | .off | .previousPeriod | .previousYear => True

/-- Planning a selection leaves the representable years. -/
def LeavesYears (cal : Calendar) (early : Offset) (s : Selection) : Prop :=
  (∀ f ∈ s.filters, f.fault? = none) ∧
    (s.start ≤ s.stop ∧ cal.CutOff early s.granularity s.start ∨
      ∃ main n, cal.normalize s.granularity s.start s.stop = .ok main ∧
        cal.bucketCount s.granularity main = .ok n ∧ cal.Overruns early s.granularity main n s.compare)

/-! A zone that began with the time of UTC never leaves the representable years. -/

theorem CutOff.offset_pos {t : Instant} (cut : cal.CutOff early g t) : 0 < early.seconds := by
  obtain ⟨_, _, _, beyond⟩ := cut
  exact (Offset.not_opens_iff.1 beyond).1

theorem Overruns.offset_ne_zero (overruns : cal.Overruns early g main n mode) : early.seconds ≠ 0 := by
  cases mode with
  | off => exact overruns.elim
  | previousPeriod =>
    simp only [Overruns, RunsOut] at overruns
    split at overruns
    · obtain ⟨_, _, ahead | behind⟩ := overruns <;> omega
    · omega
  | previousYear =>
    obtain ⟨_, _, _, _, beyond⟩ := overruns
    have ahead := (Offset.not_opens_iff.1 beyond).1
    omega
  | custom start stop =>
    have ahead := overruns.2.offset_pos
    omega

theorem LeavesYears.offset_ne_zero {s : Selection} (leaves : cal.LeavesYears early s) : early.seconds ≠ 0 := by
  obtain ⟨_, ⟨_, cut⟩ | ⟨_, _, _, _, overruns⟩⟩ := leaves
  · have ahead := cut.offset_pos
    omega
  · exact overruns.offset_ne_zero

section Settled
variable (settled : cal.zone.Settled early late)
include settled

/-! ## Comparisons -/

section Comparison
variable (accepted : cal.Accepted g main n)
include accepted

theorem resolveComparison_of_shown
    (each : ∀ p, cal.comparePeriod g main n mode = .ok (some p) → cal.ShownPeriod p) :
    (cal.resolveComparison g main mode = .error .overflow ↔ cal.comparePeriod g main n mode = .error .overflow) ∧
      ∀ p, cal.resolveComparison g main mode = .ok (some p) → cal.ShownPeriod p := by
  refine ⟨resolveComparison_overflow_iff accepted.count ?_, ?_⟩
  · intro p asked
    have shown := each p asked
    obtain ⟨starts, listed⟩ := exists_bucketStarts_settled (g := g) settled (fun _ => shown.start) shown.stop
    exact ⟨starts.length, bucketCount_eq_ok_iff.2 ⟨starts, listed, rfl⟩⟩
  · intro p answer
    exact each p (comparePeriod_of_resolve accepted.count answer).1

/-- A comparison by the calendar, or with a period that is not the one before, overflows just where
    it overruns, and else the period is shown by the clock. -/
theorem resolveComparison_exact (bounds : cal.BoundsComparison mode)
    (usual : mode = .previousPeriod → g.unitSeconds? = none) :
    (cal.resolveComparison g main mode = .error .overflow ↔ cal.Overruns early g main n mode) ∧
      ∀ p, cal.resolveComparison g main mode = .ok (some p) → cal.ShownPeriod p := by
  cases mode with
  | off =>
    have answer : cal.resolveComparison g main .off = .ok none :=
      resolveComparison_eq_ok_iff.2 ⟨n, accepted.count, rfl, by simp⟩
    simp [answer, Overruns]
  | previousPeriod => exact previousPeriod_byDate settled accepted (usual rfl)
  | previousYear =>
    have each : ∀ p, cal.comparePeriod g main n .previousYear = .ok (some p) → cal.ShownPeriod p := by
      intro p asked
      obtain ⟨_, run, same⟩ := map_eq_ok_iff.1 asked
      cases same
      exact shownPeriod_of_previousYear settled accepted run
    obtain ⟨overflow, shown⟩ := resolveComparison_of_shown settled accepted each
    refine ⟨?_, shown⟩
    rw [overflow, comparePeriod, map_eq_error_iff, previousYear_overflow_iff settled accepted, Overruns]
  | custom start stop =>
    obtain ⟨boundsStart, boundsStop⟩ := bounds
    have each : ∀ p, cal.comparePeriod g main n (.custom start stop) = .ok (some p) → cal.ShownPeriod p := by
      intro p asked
      obtain ⟨_, run, same⟩ := map_eq_ok_iff.1 asked
      cases same
      exact shownPeriod_of_normalize settled boundsStart.toSound boundsStop.toSound boundsStop.final run
    obtain ⟨overflow, shown⟩ := resolveComparison_of_shown settled accepted each
    refine ⟨?_, shown⟩
    rw [overflow, comparePeriod, map_eq_error_iff,
      normalize_overflow_iff settled boundsStart.toSound boundsStop.toSound boundsStop.final, Overruns]

theorem resolveComparison_of_overruns (bounds : cal.BoundsComparison mode)
    (overruns : cal.Overruns early g main n mode) :
    cal.resolveComparison g main mode = .error .overflow ∨
      ∃ p, cal.resolveComparison g main mode = .ok (some p) ∧ g.isCalendar = false ∧ p.start.nanos = 0 ∧
        cal.zone.clock p.start < firstSecond := by
  by_cases usual : mode = .previousPeriod → g.unitSeconds? = none
  · exact .inl ((resolveComparison_exact settled accepted bounds usual).1.2 overruns)
  · rw [Classical.not_imp] at usual
    obtain ⟨rfl, cut⟩ := usual
    obtain ⟨unit, byClock⟩ := Option.ne_none_iff_exists'.1 cut
    obtain ⟨p, answer, whole, hidden⟩ := previousPeriod_byClock_runsOut settled accepted byClock overruns
    exact .inr ⟨p, answer, by rw [Granularity.isCalendar, byClock]; rfl, whole, hidden⟩

theorem resolveComparison_of_stays (bounds : cal.BoundsComparison mode)
    (stays : ¬ cal.Overruns early g main n mode) :
    cal.resolveComparison g main mode ≠ .error .overflow ∧
      ∀ p, cal.resolveComparison g main mode = .ok (some p) → cal.ShownPeriod p := by
  by_cases usual : mode = .previousPeriod → g.unitSeconds? = none
  · obtain ⟨overflow, shown⟩ := resolveComparison_exact settled accepted bounds usual
    exact ⟨fun error => stays (overflow.1 error), shown⟩
  · rw [Classical.not_imp] at usual
    obtain ⟨rfl, cut⟩ := usual
    obtain ⟨unit, byClock⟩ := Option.ne_none_iff_exists'.1 cut
    obtain ⟨answers, shown⟩ := previousPeriod_byClock settled accepted byClock
    exact ⟨answers, fun p answer => shown p answer stays⟩

end Comparison

/-! ## What is shown beside a comparison -/

omit settled in
theorem inclusiveRange_overflow {p : Period} (clock : g.isCalendar = false) (whole : p.start.nanos = 0)
    (hidden : cal.zone.clock p.start < firstSecond) : cal.inclusiveRange g p = .error .outOfRange := by
  have text : cal.clockText p.start = .error .outOfRange := by
    simp only [clockText, toLocal, Zone.toLocal_overflow (Moment.plain_of_whole whole) hidden, bind, Except.bind]
  rw [Overflow.eq_error_iff]
  rintro ⟨range, run⟩
  simp only [inclusiveRange, clock, Bool.false_eq_true, if_false, bind_eq_ok_iff, text, reduceCtorEq, false_and,
    exists_false, and_false] at run

omit settled in
theorem comparisonParts_overflow {compare : Period} (range : cal.inclusiveRange g compare = .error .outOfRange) :
    cal.comparisonParts g mode main compare = .error .outOfRange := by
  rw [Overflow.eq_error_iff]
  rintro ⟨parts, run⟩
  simp only [comparisonParts, comparisonMetadata, bind_eq_ok_iff, range, reduceCtorEq, false_and, exists_false,
    and_false] at run

theorem exists_comparisonParts {compare : Period} (shown : cal.ShownPeriod main) (shownC : cal.ShownPeriod compare) :
    ∃ parts, cal.comparisonParts g mode main compare = .ok parts := by
  obtain ⟨s, listed, _⟩ := shownC.exists_bucketSequence settled g
  obtain ⟨range, told⟩ := shown.exists_inclusiveRange settled g
  obtain ⟨rangeC, toldC⟩ := shownC.exists_inclusiveRange settled g
  refine ⟨(s, ⟨mode.slug, range, rangeC⟩), ?_⟩
  simp only [comparisonParts, comparisonMetadata, listed, told, toldC, bind, Except.bind, pure, Except.pure]

theorem comparisonParts_overflow_iff (accepted : cal.Accepted g main n) (bounds : cal.BoundsComparison mode)
    {compare : Option Period} (answer : cal.resolveComparison g main mode = .ok compare) :
    (compare.mapM fun c => Overflow.lift (cal.comparisonParts g mode main c)) = .error .overflow ↔
      cal.Overruns early g main n mode := by
  constructor
  · intro error
    by_contra stays
    have shown := (resolveComparison_of_stays settled accepted bounds stays).2
    cases compare with
    | none => cases error
    | some p =>
      obtain ⟨parts, told⟩ : ∃ parts, cal.comparisonParts g mode main p = .ok parts :=
        exists_comparisonParts settled accepted.shown (shown p answer)
      have lifted := Overflow.lift_eq_ok_iff.2 told
      simp [Option.mapM, lifted, Functor.map, Except.map] at error
  · intro overruns
    rcases resolveComparison_of_overruns settled accepted bounds overruns with
      overflow | ⟨p, found, clock, whole, hidden⟩
    · rw [answer] at overflow
      cases overflow
    · rw [answer] at found
      cases found
      have parts : cal.comparisonParts g mode main p = .error .outOfRange :=
        comparisonParts_overflow (inclusiveRange_overflow clock whole hidden)
      simp [Option.mapM, parts, Overflow.lift, Functor.map, Except.map]

/-! ## Plans -/

section Selection
variable {s : Selection} (boundsStart : cal.Bounding s.start) (boundsStop : cal.Bounding s.stop)
  (boundsCompare : cal.BoundsComparison s.compare)
include boundsStart boundsStop boundsCompare

/-- Planning a selection overflows just where it leaves the representable years. -/
theorem plan_overflow_iff (siteId : String) :
    cal.plan siteId s = .error .overflow ↔ cal.LeavesYears early s := by
  have cutOff := normalize_overflow_iff (g := s.granularity) settled boundsStart.toSound boundsStop.toSound
    boundsStop.final
  simp only [plan, bind_eq_error_iff, pure_ne_error, Overflow.monadLift_eq_error_iff, Overflow.monadLift_eq_ok_iff,
    and_false, exists_false, or_false, analyticsQuery_overflow_iff, analyticsQuery_eq_ok_iff, LeavesYears, cutOff]
  constructor
  · rintro (⟨pass, cut | ⟨main, normalized, error⟩⟩ |
      ⟨_, ⟨pass, main, compare, normalized, resolved, rfl⟩, error | ⟨_, _, error⟩⟩)
    · exact ⟨pass, .inl cut⟩
    · obtain ⟨n, accepted⟩ := accepted_of_normalize settled boundsStart boundsStop normalized
      refine ⟨pass, .inr ⟨main, n, normalized, accepted.count, ?_⟩⟩
      by_contra stays
      exact (resolveComparison_of_stays settled accepted boundsCompare stays).1 error
    · obtain ⟨n, accepted⟩ := accepted_of_normalize settled boundsStart boundsStop normalized
      obtain ⟨_, listed, _⟩ := accepted.shown.exists_bucketSequence settled s.granularity
      rw [listed] at error
      cases error
    · obtain ⟨n, accepted⟩ := accepted_of_normalize settled boundsStart boundsStop normalized
      exact ⟨pass, .inr ⟨main, n, normalized, accepted.count,
        (comparisonParts_overflow_iff settled accepted boundsCompare resolved).1 error⟩⟩
  · rintro ⟨pass, cut | ⟨main, n, normalized, count, overruns⟩⟩
    · exact .inl ⟨pass, .inl cut⟩
    · obtain ⟨k, accepted⟩ := accepted_of_normalize settled boundsStart boundsStop normalized
      have same := accepted.count
      rw [count] at same
      cases same
      cases resolved : cal.resolveComparison s.granularity main s.compare with
      | ok compare =>
        obtain ⟨buckets, listed, _⟩ := accepted.shown.exists_bucketSequence settled s.granularity
        exact .inr ⟨_, ⟨pass, main, compare, normalized, resolved, rfl⟩, .inr ⟨buckets, listed,
          (comparisonParts_overflow_iff settled accepted boundsCompare resolved).2 overruns⟩⟩
      | error e =>
        rcases resolveComparison_of_overruns settled accepted boundsCompare overruns with overflow | ⟨_, found, _⟩
        · exact .inl ⟨pass, .inr ⟨main, normalized, overflow⟩⟩
        · rw [resolved] at found
          cases found

/-- What is planned can be answered. -/
theorem exists_planJson {siteId : String} {q : QueryPlan} (run : cal.plan siteId s = .ok q) :
    ∃ json, App.planJson cal s.granularity q = .ok json := by
  have answers : ¬ cal.LeavesYears early s := by
    rw [← plan_overflow_iff settled boundsStart boundsStop boundsCompare siteId, run]
    simp
  obtain ⟨query, resolved, _, listed, alone, beside⟩ := plan_of_ok run
  obtain ⟨pass, main, compare, normalized, answer, rfl⟩ := analyticsQuery_eq_ok_iff.1 resolved
  obtain ⟨n, accepted⟩ := accepted_of_normalize settled boundsStart boundsStop normalized
  have stays : ¬ cal.Overruns early s.granularity main n s.compare := fun overruns =>
    answers ⟨pass, .inr ⟨main, n, normalized, accepted.count, overruns⟩⟩
  have shown := (resolveComparison_of_stays settled accepted boundsCompare stays).2
  obtain ⟨_, again, each⟩ := accepted.shown.exists_bucketSequence settled s.granularity
  rw [listed] at again
  cases again
  obtain ⟨labels, labelled⟩ := ShownPeriod.exists_labels each
  have compared : ∃ texts, q.compareBuckets.mapM cal.labels = .ok texts := by
    cases compare with
    | none =>
      rw [(alone rfl).1]
      exact ⟨none, rfl⟩
    | some p =>
      obtain ⟨buckets, _, has, _, listedP⟩ := beside p rfl
      obtain ⟨_, again, eachP⟩ := (shown p answer).exists_bucketSequence settled s.granularity
      rw [listedP] at again
      cases again
      obtain ⟨texts, told⟩ := ShownPeriod.exists_labels eachP
      exact ⟨some texts, by rw [has]; simp only [Option.mapM, told, Functor.map, Except.map]⟩
  obtain ⟨texts, told⟩ := compared
  exact ⟨_, by simp only [App.planJson, labelled, told, bind, Except.bind, pure, Except.pure]; rfl⟩

end Selection

end Settled

end BucketPlan.Calendar
