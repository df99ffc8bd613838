import BucketPlan.Period.Normalize

/-!
The second period that a period is compared with. It always has as many buckets,
so that two series can be drawn over each other bucket by bucket; where the
calendar does not allow this, the comparison is refused.
-/

namespace BucketPlan

/-- The ranges of both periods, to be shown beside a comparison. -/
structure ComparisonMetadata where
  mode : String
  primaryRange : String × String
  comparisonRange : String × String
deriving DecidableEq

namespace Calendar

/-- Ends with a refusal when there is no value. -/
def orRefused {α : Type} (reason : Refusal) : Option α → Except Failure α
  | some a => .ok a
  | none => .error (.refused reason)

/-- As many buckets as `main` has, directly before it. -/
def previousPeriod (cal : Calendar) (g : Granularity) (main : Period) (buckets : Nat) :
    Except Failure Period := do
  let absent := Refusal.comparisonInfeasible .previousPeriod buckets 0
  let start ← orRefused absent (← cal.step g (-(buckets : Int)) main.start)
  return { start := start, stop := main.start, timezone := main.timezone }

/-- The period from the first to the last bucket of `main`, both moved back to the
    same local time a year before. -/
def previousYear (cal : Calendar) (g : Granularity) (main : Period) (buckets : Nat) :
    Except Failure Period := do
  let absent := Refusal.comparisonInfeasible .previousYear buckets 0
  let last ← orRefused absent (← cal.previous g main.stop)
  let start ← orRefused absent (← cal.yearEarlier main.start)
  let last ← orRefused absent (← cal.yearEarlier last)
  let stop ← orRefused absent (← cal.next g (← cal.floor g last))
  cal.normalize g start stop

/-- The period that a mode asks for, its number of buckets not yet compared. -/
def comparePeriod (cal : Calendar) (g : Granularity) (main : Period) (buckets : Nat) :
    CompareMode → Except Failure (Option Period)
  | .off => .ok none
  | .previousPeriod => some <$> cal.previousPeriod g main buckets
  | .previousYear => some <$> cal.previousYear g main buckets
  | .custom start stop => some <$> cal.normalize g start stop

/-- The refusal of a period with another number of buckets. -/
def unevenRefusal (mode : CompareMode) (main compare : Nat) : Refusal :=
  match mode with
  | .custom _ _ => .comparisonUneven main compare
  | _ => .comparisonInfeasible mode main compare

/-- The period that an aligned period is compared with; none when comparison is off. -/
def resolveComparison (cal : Calendar) (g : Granularity) (main : Period) (mode : CompareMode) :
    Except Failure (Option Period) := do
  let mainBuckets ← cal.bucketCount g main
  match ← cal.comparePeriod g main mainBuckets mode with
  | none => return none
  | some compare =>
    let compareBuckets ← cal.bucketCount g compare
    if compareBuckets = mainBuckets then return some compare
    else throw (.refused (unevenRefusal mode mainBuckets compareBuckets))

/-- A local time as it ends a range, to the minute. -/
def clockText (cal : Calendar) (t : Instant) : Except Overflow String := do
  let l ← cal.toLocal t
  return String.ofList (l.date.chars ++ ' ' :: l.clockChars)

/-- Ranges of buckets cut by the clock are written as the labels of the buckets are. -/
theorem clockText_eq_label (cal : Calendar) {g : Granularity} (clock : g.isCalendar = false) (t : Instant) :
    cal.clockText t = cal.label g t := by
  cases g with
  | minute | hour => rfl
  | day | week | month => cases clock

/-- First and last moment of a period as texts: dates for buckets cut by the
    calendar, else the local times at which the first and the last bucket start. -/
def inclusiveRange (cal : Calendar) (g : Granularity) (p : Period) : Except Overflow (String × String) :=
  if g.isCalendar then do
    let last := Moment.latest (← p.stop.plus (-1)) p.start
    return ((← cal.dateOf p.start).text, (← cal.dateOf last).text)
  else do
    let last := ((← cal.previous g p.stop).filter (p.start ≤ ·)).getD p.start
    return (← cal.clockText p.start, ← cal.clockText last)

/-- What is shown beside a comparison. -/
def comparisonMetadata (cal : Calendar) (g : Granularity) (mode : CompareMode) (main compare : Period) :
    Except Overflow ComparisonMetadata := do
  return ⟨mode.slug, ← cal.inclusiveRange g main, ← cal.inclusiveRange g compare⟩

end Calendar

end BucketPlan
