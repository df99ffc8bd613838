import BucketPlan.Date.Basic
import BucketPlan.Text.Blank

namespace BucketPlan

/-- The sizes of the buckets into which a period can be cut. -/
inductive Granularity where
  | minute | hour | day | week | month
deriving DecidableEq, Repr

/-- The least and the greatest number of buckets that a period may have. -/
structure SpanBounds where
  minBuckets : Nat
  maxBuckets : Nat
deriving DecidableEq, Repr

def SpanBounds.Contains (b : SpanBounds) (buckets : Nat) : Prop :=
  b.minBuckets ≤ buckets ∧ buckets ≤ b.maxBuckets

instance (b : SpanBounds) (buckets : Nat) : Decidable (b.Contains buckets) :=
  inferInstanceAs (Decidable (_ ∧ _))

namespace Granularity

/-- All granularities, the finest first. -/
def all : List Granularity := [minute, hour, day, week, month]

def name : Granularity → String
  | minute => "minute"
  | hour => "hour"
  | day => "day"
  | week => "week"
  | month => "month"

/-- The granularity with exactly that name. -/
def ofName? (text : String) : Option Granularity := all.find? fun g => text = g.name

/-- Key under which the name of the granularity is translated. -/
def labelKey (g : Granularity) : String := "granularity." ++ g.name

/-- Periods are bounded by their number of buckets and not by their length, so a
    day of 23 hours or a February of 28 days is one bucket as any other. -/
def bounds : Granularity → SpanBounds
  | minute => ⟨1, 2880⟩
  | hour => ⟨1, 2208⟩
  | day => ⟨1, 1100⟩
  | week => ⟨1, 260⟩
  | month => ⟨1, 120⟩

/-- Length in seconds of the buckets that are cut by the clock; the others are
    cut by the calendar. -/
def unitSeconds? : Granularity → Option Nat
  | minute => some 60
  | hour => some 3600
  | day | week | month => none

/-- The buckets follow the calendar and not the clock. -/
def isCalendar (g : Granularity) : Bool := g.unitSeconds?.isNone

/-- Seconds that no bucket is longer than, on days with a shift of the clock too. -/
def longestSeconds : Granularity → Nat
  | minute => 120
  | hour => 7200
  | day => 26 * 3600
  | week => (7 * 24 + 2) * 3600
  | month => (31 * 24 + 2) * 3600

/-- The granularity for a selection of the dates from `first` to `last`: hours
    up to two days, days up to sixty, else months. -/
def forDates (first last : Date) : Granularity :=
  let days := last.day - first.day + 1
  if days ≤ 2 then hour else if days ≤ 60 then day else month

end Granularity

end BucketPlan
