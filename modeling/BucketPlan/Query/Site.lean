import BucketPlan.Granularity
import BucketPlan.Moment.Text
import BucketPlan.Period.Basic
import BucketPlan.Query.Filter

namespace BucketPlan

/-- Parameters that reach the store as they are. -/
structure AuxParams where
  journeySteps : Option UInt32 := none
  journeyPaths : Option UInt32 := none
deriving DecidableEq, Repr

/-- A selection with its periods resolved. -/
structure AnalyticsQuery where
  main : Period
  compare : Option Period
  granularity : Granularity
  filters : List Filter
  timezone : String
  aux : AuxParams
deriving DecidableEq

/-- One query to the store. -/
structure SiteQuery where
  siteId : String
  startDate : String
  endDate : String
  granularity : Granularity
  filters : List Filter
  timezone : String
  aux : AuxParams
deriving DecidableEq

/-- The query for a period and, when it is compared, the query for the other one. -/
structure SiteQueries where
  main : SiteQuery
  compare : Option SiteQuery
deriving DecidableEq

/-- An instant as the store reads it; fractions of a second are dropped. -/
def Moment.wireText (t : Instant) : String := String.ofList t.spacedChars

namespace AnalyticsQuery

/-- The query for one of the periods. -/
def siteQuery (q : AnalyticsQuery) (siteId : String) (p : Period) : SiteQuery where
  siteId := siteId
  startDate := p.start.wireText
  endDate := p.stop.wireText
  granularity := q.granularity
  filters := q.filters
  timezone := q.timezone
  aux := q.aux

def siteQueries (q : AnalyticsQuery) (siteId : String) : SiteQueries :=
  ⟨q.siteQuery siteId q.main, q.compare.map (q.siteQuery siteId)⟩

end AnalyticsQuery

end BucketPlan
