import BucketPlan.Comparison.Resolve
import BucketPlan.Query.Site

namespace BucketPlan

/-- What was selected, before it is aligned to buckets. -/
structure Selection where
  start : Instant
  stop : Instant
  granularity : Granularity
  compare : CompareMode
  filters : List Filter
  aux : AuxParams
deriving DecidableEq

/-- What becomes of a selection: the queries to the store, and the buckets over which their rows are
    laid out. -/
structure QueryPlan where
  queries : SiteQueries
  mainBuckets : BucketSequence
  compareBuckets : Option BucketSequence
  comparison : Option ComparisonMetadata
deriving DecidableEq

namespace Calendar

/-- Checks the filters, then aligns the selection and its comparison. -/
def analyticsQuery (cal : Calendar) (s : Selection) : Except Failure AnalyticsQuery := do
  s.filters.forM fun f => Refusal.lift f.check
  let main ← cal.normalize s.granularity s.start s.stop
  let compare ← cal.resolveComparison s.granularity main s.compare
  return {
    main := main
    compare := compare
    granularity := s.granularity
    filters := s.filters
    timezone := cal.zone.id
    aux := s.aux }

/-- The buckets of a comparison and what is shown beside it. -/
def comparisonParts (cal : Calendar) (g : Granularity) (mode : CompareMode) (main compare : Period) :
    Except Overflow (BucketSequence × ComparisonMetadata) := do
  return (← cal.bucketSequence g compare, ← cal.comparisonMetadata g mode main compare)

/-- The plan of a selection for one site. -/
def plan (cal : Calendar) (siteId : String) (s : Selection) : Except Failure QueryPlan := do
  let query ← cal.analyticsQuery s
  let mainBuckets ← cal.bucketSequence s.granularity query.main
  let parts ← query.compare.mapM fun compare =>
    Overflow.lift (cal.comparisonParts s.granularity s.compare query.main compare)
  return {
    queries := query.siteQueries siteId
    mainBuckets := mainBuckets
    compareBuckets := parts.map (·.1)
    comparison := parts.map (·.2) }

end Calendar

end BucketPlan
