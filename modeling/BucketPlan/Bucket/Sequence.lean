import BucketPlan.Bucket.Cursor
import BucketPlan.Moment.Text

namespace BucketPlan

/-- The bucket starts of a period, in a named zone. -/
structure BucketSequence where
  granularity : Granularity
  timezone : String
  starts : List Instant
deriving DecidableEq

/-- A position of a chart: a bucket and the one it is compared with. -/
structure AlignedBucket where
  index : Nat
  bucket : Instant
  compareBucket : Option Instant
deriving DecidableEq

namespace Calendar

/-- The bucket starts of a period. -/
def bucketStarts (cal : Calendar) (g : Granularity) (p : Period) : Except Overflow (List Instant) :=
  (Cursor.ofPeriod g p).toList cal

/-- The number of buckets of a period, which comparisons keep. -/
def bucketCount (cal : Calendar) (g : Granularity) (p : Period) : Except Overflow Nat := do
  return (← cal.bucketStarts g p).length

def bucketSequence (cal : Calendar) (g : Granularity) (p : Period) : Except Overflow BucketSequence := do
  return ⟨g, p.timezone, ← cal.bucketStarts g p⟩

/-- The text under which a bucket is shown: its local date, for months without the
    day, for buckets cut by the clock with the time. -/
def labelChars (g : Granularity) (l : WallTime) : List Char :=
  match g with
  | .minute | .hour => l.date.chars ++ ' ' :: l.clockChars
  | .day | .week => l.date.chars
  | .month => l.date.civil.monthChars

/-- The label of the bucket that starts at an instant. -/
def label (cal : Calendar) (g : Granularity) (t : Instant) : Except Overflow String := do
  return String.ofList (labelChars g (← cal.toLocal t))

def labels (cal : Calendar) (s : BucketSequence) : Except Overflow (List String) :=
  s.starts.mapM (cal.label s.granularity)

end Calendar

namespace BucketSequence

/-- The value of the last row at an instant. -/
def lastRow? {α : Type} (t : Instant) (rows : List (Instant × α)) : Option α :=
  (rows.reverse.find? fun row => row.1 = t).map (·.2)

/-- One value per start: that of the last row there, or `missing`. A row is used
    up, so a start that comes again is missing. -/
def fillStarts {α : Type} (missing : α) : List Instant → List (Instant × α) → List α
  | [], _ => []
  | t :: starts, rows =>
    (lastRow? t rows).getD missing :: fillStarts missing starts (rows.filter fun row => row.1 ≠ t)

/-- Rows laid out over the buckets; rows that start no bucket are left out. -/
def fill {α : Type} (s : BucketSequence) (rows : List (Instant × α)) (missing : α) : List α :=
  fillStarts missing s.starts rows

/-- Pairs the buckets of two sequences by their position. -/
def align (main : BucketSequence) (compare : Option BucketSequence) : List AlignedBucket :=
  main.starts.zipIdx.map fun (t, i) => ⟨i, t, compare.bind (·.starts[i]?)⟩

end BucketSequence

end BucketPlan
