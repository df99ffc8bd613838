import BucketPlan.Bucket.Sequence
import BucketPlan.Refusal

/-!
A selection of two instants is widened to whole buckets. The result is refused
when it has too few or too many of them; a selection that is far too long is
refused by its length, before its buckets are counted.
-/

namespace BucketPlan

/-- A number of buckets that the time between two instants holds at least, since
    no bucket is longer than the longest. -/
def leastBuckets (g : Granularity) (start stop : Instant) : Nat :=
  (stop.secondsSince start).toNat / g.longestSeconds

namespace Calendar

/-- The period from `start` to `stop`, when its number of buckets is within the
    bounds of the granularity. -/
def boundedPeriod (cal : Calendar) (g : Granularity) (start stop : Instant) : Except Failure Period := do
  let least := leastBuckets g start stop
  if g.bounds.maxBuckets < least then
    throw (.refused (.bucketsOutOfBounds g least))
  else
    let period : Period := ⟨start, stop, cal.zone.id⟩
    let buckets ← cal.bucketCount g period
    if g.bounds.Contains buckets then return period
    else throw (.refused (.bucketsOutOfBounds g buckets))

/-- The least period of whole buckets that covers a selection. -/
def normalize (cal : Calendar) (g : Granularity) (rawStart rawStop : Instant) : Except Failure Period :=
  if rawStop < rawStart then .error (.refused (.reversedPeriod rawStart rawStop))
  else do
    let start ← cal.floor g rawStart
    let stop ← cal.ceil g rawStop
    if stop < start then throw (.refused (.reversedPeriod start stop))
    else cal.boundedPeriod g start stop

end Calendar

end BucketPlan
