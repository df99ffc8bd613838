import BucketPlan.Moment.Basic

namespace BucketPlan

/-- Which period, if any, a period is compared with. -/
inductive CompareMode where
  | off
  /-- As many buckets, ending where the period starts. -/
  | previousPeriod
  /-- The same local dates a year before. -/
  | previousYear
  /-- A selection of its own. -/
  | custom (start stop : Instant)
deriving DecidableEq

namespace CompareMode

/-- The name under which requests and answers refer to the mode. -/
def slug : CompareMode → String
  | off => "none"
  | previousPeriod => "previous_period"
  | previousYear => "previous_year"
  | custom _ _ => "custom"

def isOff : CompareMode → Bool
  | off => true
  | _ => false

end CompareMode

end BucketPlan
