import BucketPlan.Zone.Basic

/-!
A zone as the time zone database records it: an offset from the beginning of
time, then changes in the order of time. A change is written down either for one
instant, or for each year of a span by a rule such as "the last Sunday of March
at 02:00". After the last change its offset stays.
-/

namespace BucketPlan

/-- A day of a month that is found by its weekday. -/
inductive DayRule where
  /-- The last such weekday of the month. -/
  | last (weekday : Weekday)
  /-- The first such weekday on or after a day of the month. -/
  | onOrAfter (weekday : Weekday) (day : Nat)
deriving DecidableEq

/-- Day number of the day that the rule finds in a month. -/
def DayRule.dayNumber (year : Int) (month : Nat) : DayRule → Int
  | .last w =>
    let final := (Civil.mk year month (daysInMonth year month)).dayNumber
    final - (final + 3 - w.index) % 7
  | .onOrAfter w day =>
    let start := (Civil.mk year month day).dayNumber
    start + (w.index - (start + 3)) % 7

/-- A yearly change: at a wall-clock time, read with the offset `old`, the
    offset becomes `new`. Times and offsets are in seconds. -/
structure YearlyChange where
  month : Nat
  day : DayRule
  time : Int
  old : Int
  new : Int
deriving DecidableEq

/-- A line of a zone's record. -/
inductive ZoneLine where
  /-- From that moment of UTC on, the offset in seconds. -/
  | dated (day : Civil) (time offset : Int)
  /-- These changes in each year from the first to the last. -/
  | yearly (firstYear lastYear : Int) (changes : List YearlyChange)
deriving DecidableEq

/-- What is recorded of a zone. -/
structure ZoneRecord where
  /-- The offset before the first change, in seconds. -/
  base : Int
  lines : List ZoneLine
deriving DecidableEq

namespace ZoneRecord

/-- Seconds of a time of day. -/
def clock (hours minutes seconds : Nat) : Int := (hours * 3600 + minutes * 60 + seconds : Nat)

/-- An offset east of Greenwich. -/
def east (hours minutes seconds : Nat) : Int := clock hours minutes seconds

/-- An offset west of Greenwich. -/
def west (hours minutes seconds : Nat) : Int := -clock hours minutes seconds

/-- A zone that never changes its offset. -/
def fixed (offset : Int) : ZoneRecord := ⟨offset, []⟩

end ZoneRecord

/-- An instant, in seconds, and the offset from then on. -/
structure OffsetChange where
  start : Int
  offset : Offset
deriving DecidableEq

namespace ZoneLine

def yearlyChange (year : Int) (c : YearlyChange) : OffsetChange :=
  ⟨c.day.dayNumber year c.month * 86400 + c.time - c.old, Offset.ofSeconds c.new⟩

/-- The changes of a line, one by one. -/
def changes : ZoneLine → List OffsetChange
  | dated day time offset => [⟨day.dayNumber * 86400 + time, Offset.ofSeconds offset⟩]
  | yearly firstYear lastYear cs =>
    (List.range (lastYear - firstYear + 1).toNat).flatMap fun (k : Nat) => cs.map (yearlyChange (firstYear + k))

end ZoneLine

/-- A zone with all its changes in the order of time. -/
structure ZoneTable where
  id : String
  base : Offset
  changes : List OffsetChange
deriving DecidableEq

namespace ZoneTable

def ofRecord (id : String) (r : ZoneRecord) : ZoneTable :=
  ⟨id, Offset.ofSeconds r.base, r.lines.flatMap ZoneLine.changes⟩

/-- The offset of the last change at or before a second. -/
def offsetAtSecond (current : Offset) (second : Int) : List OffsetChange → Offset
  | [] => current
  | c :: rest => if c.start ≤ second then offsetAtSecond c.offset second rest else current

/-- The offsets of the stretches of time whose wall clock shows that second, in
    the order of time; the current stretch begins at `start`, if it has a beginning. -/
def offsetsForSecond (start : Option Int) (current : Offset) (second : Int) :
    List OffsetChange → List Offset
  | [] => if reached start current second then [current] else []
  | c :: rest =>
    let later := offsetsForSecond (some c.start) c.offset second rest
    if reached start current second && second < c.start + current.seconds then current :: later else later
where
  /-- The stretch has begun when its clock shows that second. -/
  reached (start : Option Int) (current : Offset) (second : Int) : Bool :=
    match start with
    | none => true
    | some a => a + current.seconds ≤ second

/-- The offsets of a local time, of which a zone's record has at most two. -/
def offsetsFor (z : ZoneTable) (l : WallTime) : LocalOffsets :=
  match offsetsForSecond none z.base l.seconds z.changes with
  | [] => .skipped
  | [o] => .once o
  | a :: b :: _ => .twice a b

/-- The zone of the table. -/
def zone (z : ZoneTable) : Zone :=
  ⟨z.id, fun t => offsetAtSecond z.base t.seconds z.changes, fun l => .ok (z.offsetsFor l)⟩

end ZoneTable

end BucketPlan
