import BucketPlan.Moment.Overflow

/-!
What a calendar asks of a time zone: the offset in force at an instant, and the
offsets under which a wall-clock time exists. Between instants and local times
the zone leads both ways; a local time that exists twice stands for the earlier
instant, and one that was skipped is read with the offset in force before the
skip.
-/

namespace BucketPlan

/-- Seconds by which a wall clock is ahead of UTC; less than a day either way. -/
@[ext] structure Offset where
  seconds : Int
  lower : -86400 < seconds
  upper : seconds < 86400
deriving DecidableEq

namespace Offset

/-- The offset of that many seconds, when they are less than a day. -/
def ofSeconds? (s : Int) : Option Offset :=
  if h : -86400 < s ∧ s < 86400 then some ⟨s, h.1, h.2⟩ else none

def utc : Offset := ⟨0, by decide, by decide⟩

/-- The offset of that many seconds; a day or more counts as no offset. -/
def ofSeconds (s : Int) : Offset := (ofSeconds? s).getD utc

theorem ofSeconds?_eq_some_iff {s : Int} {o : Offset} : ofSeconds? s = some o ↔ o.seconds = s := by
  unfold ofSeconds?
  constructor
  · intro h
    split at h
    · cases h; rfl
    · cases h
  · rintro rfl
    rw [dif_pos ⟨o.lower, o.upper⟩]

end Offset

/-- The offsets under which one wall-clock time exists. -/
inductive LocalOffsets where
  | skipped
  | once (offset : Offset)
  | twice (first second : Offset)
deriving DecidableEq

/-- The offsets as a list. -/
def LocalOffsets.toList : LocalOffsets → List Offset
  | skipped => []
  | once o => [o]
  | twice a b => [a, b]

/-- The rules of a time zone. -/
structure Zone where
  /-- The name under which queries refer to the zone. -/
  id : String
  offsetAt : Instant → Offset
  offsetsFor : WallTime → Except Overflow LocalOffsets

/-- The instant at which a clock with this offset shows the local time. -/
def Offset.instant (o : Offset) (l : WallTime) : Except Overflow Instant :=
  l.plus (-o.seconds)

namespace Zone

/-- The wall-clock time of an instant. -/
def toLocal (z : Zone) (t : Instant) : Except Overflow WallTime :=
  t.plus (z.offsetAt t).seconds

/-- The offset that the zone reads a local time with: the greater of two, which
    gives the earlier instant, and for a skipped time the one of a day before. -/
def offsetFor (z : Zone) (l : WallTime) : Except Overflow Offset := do
  match ← z.offsetsFor l with
  | .once o => return o
  | .twice a b => return if b.seconds ≤ a.seconds then a else b
  | .skipped =>
    let before ← l.plus (-86400)
    return z.offsetAt before

/-- The instant at which the zone's clock first shows the local time. -/
def ofLocal (z : Zone) (l : WallTime) : Except Overflow Instant := do
  (← z.offsetFor l).instant l

/-- The instant at which the zone's day begins. -/
def startOfDay (z : Zone) (d : Date) : Except Overflow Instant := z.ofLocal (.midnight d)

end Zone

end BucketPlan
