import BucketPlan.Plan
import BucketPlan.Proofs.Bucket.Walk
import BucketPlan.Proofs.Comparison.Resolved

/-!
A plan looks at the buckets of a period again and again: when the period is accepted,
when it is compared, when its starts are listed and when they are paired. Whatever the
zone answers, all of these agree (`plan_consistent`): the number of buckets is within the
bounds, a comparison is there as a whole or not at all and has as many buckets, and each
query asks for its own buckets with the parameters of the selection.
-/

namespace BucketPlan

/-! ## Aligned buckets -/

namespace BucketSequence

variable (main : BucketSequence) (compare : Option BucketSequence)

theorem align_index : (main.align compare).map (·.index) = List.range main.starts.length := by
  simp only [align, List.map_map, Function.comp_def, List.zipIdx_map_snd, List.range_eq_range']

theorem align_bucket : (main.align compare).map (·.bucket) = main.starts := by
  simp only [align, List.map_map, Function.comp_def, List.zipIdx_map_fst]

theorem align_compareBucket {main compare : BucketSequence}
    (even : compare.starts.length = main.starts.length) :
    (main.align (some compare)).map (·.compareBucket) = compare.starts.map some := by
  apply List.ext_getElem?
  intro i
  simp only [align, List.getElem?_map, List.getElem?_zipIdx, Option.map_map, Function.comp_def,
    Option.bind_some, Nat.zero_add]
  rcases Nat.lt_or_ge i main.starts.length with inside | past
  · rw [List.getElem?_eq_getElem inside, List.getElem?_eq_getElem (even ▸ inside)]
    rfl
  · rw [List.getElem?_eq_none past, List.getElem?_eq_none (even ▸ past)]
    rfl

end BucketSequence

/-! ## Queries and plans -/

/-- The query asks for the buckets of the sequence, from the first of them on, in the
    zone of the calendar and with the parameters of the selection. -/
structure SiteQuery.AsksFor (query : SiteQuery) (cal : Calendar) (siteId : String) (s : Selection)
    (buckets : BucketSequence) : Prop where
  site : query.siteId = siteId
  first : ∃ t, buckets.starts.head? = some t ∧ query.startDate = t.wireText
  granularity : query.granularity = s.granularity ∧ buckets.granularity = s.granularity
  filters : query.filters = s.filters
  aux : query.aux = s.aux
  timezone : query.timezone = cal.zone.id

/-- The parts of the plan fit together, and fit the selection. -/
structure QueryPlan.Consistent (q : QueryPlan) (cal : Calendar) (siteId : String) (s : Selection) : Prop where
  bounded : s.granularity.bounds.Contains q.mainBuckets.starts.length
  increasing : q.mainBuckets.starts.Pairwise (· < ·)
  main : q.queries.main.AsksFor cal siteId s q.mainBuckets
  aligned : (q.mainBuckets.align q.compareBuckets).map (·.index) = List.range q.mainBuckets.starts.length ∧
    (q.mainBuckets.align q.compareBuckets).map (·.bucket) = q.mainBuckets.starts
  off : s.compare = .off → q.queries.compare = none ∧ q.compareBuckets = none ∧ q.comparison = none
  compared : s.compare ≠ .off → ∃ query buckets metadata, q.queries.compare = some query ∧
    q.compareBuckets = some buckets ∧ q.comparison = some metadata ∧ query.AsksFor cal siteId s buckets ∧
    buckets.starts.length = q.mainBuckets.starts.length ∧ buckets.starts.Pairwise (· < ·) ∧
    (q.mainBuckets.align q.compareBuckets).map (·.compareBucket) = buckets.starts.map some

namespace Calendar

variable {cal : Calendar} {siteId : String} {s : Selection}

theorem forM_check (filters : List Filter) :
    (filters.forM fun f => Refusal.lift f.check) ≠ .error .overflow ∧
      ((filters.forM fun f => Refusal.lift f.check) = .ok () ↔ ∀ f ∈ filters, f.fault? = none) := by
  induction filters with
  | nil => simp [pure, Except.pure]
  | cons f rest ih =>
    obtain ⟨calm, passes⟩ := ih
    cases fault : f.fault? with
    | some reason => simp [List.forM_cons, Filter.check, fault, Refusal.lift, bind, Except.bind]
    | none =>
      have here : Refusal.lift f.check = .ok () := by rw [Filter.check, fault, Refusal.lift]
      simp only [List.forM_eq_forM, List.forM_cons, here, bind, Except.bind, List.forall_mem_cons, fault, true_and]
      exact ⟨calm, passes⟩

/-- What has been resolved for a selection: an accepted period, what it is compared
    with, and all else as the selection has it. -/
theorem analyticsQuery_eq_ok_iff {query : AnalyticsQuery} :
    cal.analyticsQuery s = .ok query ↔
      (∀ f ∈ s.filters, f.fault? = none) ∧ ∃ main compare, cal.normalize s.granularity s.start s.stop = .ok main ∧
        cal.resolveComparison s.granularity main s.compare = .ok compare ∧
        query = ⟨main, compare, s.granularity, s.filters, cal.zone.id, s.aux⟩ := by
  simp only [analyticsQuery, bind_eq_ok_iff, pure_eq_ok_iff, ← (forM_check s.filters).2]
  constructor
  · rintro ⟨_, checked, main, normalized, compare, resolved, rfl⟩
    exact ⟨checked, main, compare, normalized, resolved, rfl⟩
  · rintro ⟨checked, main, compare, normalized, resolved, rfl⟩
    exact ⟨(), checked, main, normalized, compare, resolved, rfl⟩

theorem analyticsQuery_of_ok {query : AnalyticsQuery} (run : cal.analyticsQuery s = .ok query) :
    ∃ main compare, cal.normalize s.granularity s.start s.stop = .ok main ∧
      cal.resolveComparison s.granularity main s.compare = .ok compare ∧
      query = ⟨main, compare, s.granularity, s.filters, cal.zone.id, s.aux⟩ := (analyticsQuery_eq_ok_iff.1 run).2

theorem analyticsQuery_overflow_iff :
    cal.analyticsQuery s = .error .overflow ↔
      (∀ f ∈ s.filters, f.fault? = none) ∧
        (cal.normalize s.granularity s.start s.stop = .error .overflow ∨
          ∃ main, cal.normalize s.granularity s.start s.stop = .ok main ∧
            cal.resolveComparison s.granularity main s.compare = .error .overflow) := by
  obtain ⟨calm, passes⟩ := forM_check s.filters
  simp only [analyticsQuery, bind_eq_error_iff, calm, false_or, pure_ne_error, and_false, exists_false, or_false,
    ← passes]
  constructor
  · rintro ⟨_, checked, error⟩
    exact ⟨checked, error⟩
  · rintro ⟨checked, error⟩
    exact ⟨(), checked, error⟩

/-- A plan lists the buckets of both periods, and shows something beside a comparison
    when there is one. -/
theorem plan_of_ok {q : QueryPlan} (run : cal.plan siteId s = .ok q) :
    ∃ query, cal.analyticsQuery s = .ok query ∧ q.queries = query.siteQueries siteId ∧
      cal.bucketSequence s.granularity query.main = .ok q.mainBuckets ∧
      (query.compare = none → q.compareBuckets = none ∧ q.comparison = none) ∧
      ∀ p, query.compare = some p → ∃ buckets metadata, q.compareBuckets = some buckets ∧
        q.comparison = some metadata ∧ cal.bucketSequence s.granularity p = .ok buckets := by
  simp only [plan, bind_eq_ok_iff, pure_eq_ok_iff, Overflow.monadLift_eq_ok_iff] at run
  obtain ⟨query, resolved, mainBuckets, listed, parts, compared, rfl⟩ := run
  refine ⟨query, resolved, rfl, listed, ?_⟩
  cases asked : query.compare with
  | none =>
    rw [asked] at compared
    cases compared
    simp
  | some p =>
    rw [asked] at compared
    obtain ⟨part, lifted, rfl⟩ := map_eq_ok_iff.1 compared
    have both := Overflow.lift_eq_ok_iff.1 lifted
    simp only [comparisonParts, bind_eq_ok_iff, pure_eq_ok_iff] at both
    obtain ⟨buckets, run, metadata, _, rfl⟩ := both
    refine ⟨by simp, ?_⟩
    rintro _ ⟨⟩
    exact ⟨buckets, metadata, rfl, rfl, run⟩

theorem comparison_of_plan {q : QueryPlan} (run : cal.plan siteId s = .ok q) {metadata : ComparisonMetadata}
    (shown : q.comparison = some metadata) :
    ∃ main compare, cal.normalize s.granularity s.start s.stop = .ok main ∧
      cal.resolveComparison s.granularity main s.compare = .ok (some compare) ∧
      q.queries = AnalyticsQuery.siteQueries
        ⟨main, some compare, s.granularity, s.filters, cal.zone.id, s.aux⟩ siteId ∧
      cal.comparisonMetadata s.granularity s.compare main compare = .ok metadata := by
  simp only [plan, bind_eq_ok_iff, pure_eq_ok_iff, Overflow.monadLift_eq_ok_iff] at run
  obtain ⟨query, resolved, _, _, parts, compared, rfl⟩ := run
  obtain ⟨main, asked, normalized, answer, rfl⟩ := analyticsQuery_of_ok resolved
  cases asked with
  | none =>
    cases compared
    cases shown
  | some compare =>
    obtain ⟨part, lifted, rfl⟩ := map_eq_ok_iff.1 compared
    have both := Overflow.lift_eq_ok_iff.1 lifted
    simp only [comparisonParts, bind_eq_ok_iff, pure_eq_ok_iff] at both
    obtain ⟨_, _, _, shows, rfl⟩ := both
    cases shown
    exact ⟨main, compare, normalized, answer, rfl, shows⟩

section Sequence
variable {g : Granularity} {p : Period} {buckets : BucketSequence} (run : cal.bucketSequence g p = .ok buckets)
include run

theorem length_bucketSequence {n : Nat} (count : cal.bucketCount g p = .ok n) : buckets.starts.length = n := by
  obtain ⟨starts, listed, rfl⟩ := bucketSequence_eq_ok_iff.1 run
  obtain ⟨again, counted, length⟩ := bucketCount_eq_ok_iff.1 count
  rw [listed] at counted
  cases counted
  exact length

theorem increasing_bucketSequence : buckets.starts.Pairwise (· < ·) := by
  obtain ⟨starts, listed, rfl⟩ := bucketSequence_eq_ok_iff.1 run
  exact (bucketStarts_eq_ok_iff.1 listed).increasing

end Sequence

theorem asksFor {query : AnalyticsQuery} {p : Period} {buckets : BucketSequence}
    (run : cal.bucketSequence s.granularity p = .ok buckets) (some_bucket : 0 < buckets.starts.length)
    (granularity : query.granularity = s.granularity) (filters : query.filters = s.filters)
    (aux : query.aux = s.aux) (timezone : query.timezone = cal.zone.id) :
    (query.siteQuery siteId p).AsksFor cal siteId s buckets := by
  obtain ⟨starts, listed, rfl⟩ := bucketSequence_eq_ok_iff.1 run
  have first := head?_bucketStarts listed (List.length_pos_iff.1 some_bucket)
  exact ⟨rfl, ⟨p.start, first, rfl⟩, ⟨granularity, rfl⟩, filters, aux, timezone⟩

/-- Whatever the zone answers, the parts of an accepted plan fit together. -/
theorem plan_consistent {q : QueryPlan} (accepted : cal.plan siteId s = .ok q) : q.Consistent cal siteId s := by
  obtain ⟨query, resolved, queries, listed, absent, present⟩ := plan_of_ok accepted
  obtain ⟨main, compare, normalized, compared, rfl⟩ := analyticsQuery_of_ok resolved
  obtain ⟨n, count, asked, even⟩ := resolveComparison_eq_ok_iff.1 compared
  obtain ⟨k, again, bounded⟩ := normalize_count normalized
  rw [count] at again
  cases again
  have length := length_bucketSequence listed count
  have some_bucket := Granularity.pos_of_contains bounded
  have asks : q.queries.main.AsksFor cal siteId s q.mainBuckets := by
    rw [queries]
    exact asksFor listed (by omega) rfl rfl rfl rfl
  refine ⟨length ▸ bounded, increasing_bucketSequence listed, asks, ⟨?_, ?_⟩, ?_, ?_⟩
  · exact BucketSequence.align_index _ _
  · exact BucketSequence.align_bucket _ _
  · intro off
    cases (comparePeriod_eq_none_iff asked).2 off
    obtain ⟨noBuckets, noMetadata⟩ := absent rfl
    exact ⟨by rw [queries]; rfl, noBuckets, noMetadata⟩
  · intro on
    obtain ⟨p, rfl⟩ := Option.ne_none_iff_exists'.1 (mt (comparePeriod_eq_none_iff asked).1 on)
    obtain ⟨buckets, metadata, isBuckets, isMetadata, run⟩ := present p rfl
    have same := length_bucketSequence run (even p rfl)
    refine ⟨_, buckets, metadata, by rw [queries]; rfl, isBuckets, isMetadata, ?_, ?_, ?_, ?_⟩
    · exact asksFor run (by omega) rfl rfl rfl rfl
    · omega
    · exact increasing_bucketSequence run
    · rw [isBuckets]
      exact BucketSequence.align_compareBucket (by omega)

/-- A zone that changes its offset every half hour and in which no local time exists. -/
def restless : Zone where
  id := "Restless"
  offsetAt t := if t.seconds / 1800 % 2 = 0 then Offset.utc else ⟨900, by decide, by decide⟩
  offsetsFor _ := .ok .skipped

/-- A quarter of a day, hour by hour, compared with the hours before. -/
def quarterOfADay : Selection where
  start := (Moment.ofSeconds? 1641600000).get (by decide)
  stop := (Moment.ofSeconds? 1641621600).get (by decide)
  granularity := .hour
  compare := .previousPeriod
  filters := [⟨"page", .equal, "/"⟩]
  aux := {}

theorem restless_plan_consistent :
    ∃ q, Calendar.plan ⟨restless, .monday⟩ "site" quarterOfADay = .ok q ∧
      q.Consistent ⟨restless, .monday⟩ "site" quarterOfADay := by
  have accepted : (Calendar.plan ⟨restless, .monday⟩ "site" quarterOfADay).isOk = true := by decide +kernel
  cases run : Calendar.plan ⟨restless, .monday⟩ "site" quarterOfADay with
  | error e => rw [run] at accepted; cases accepted
  | ok q => exact ⟨q, rfl, plan_consistent run⟩

end Calendar

end BucketPlan
