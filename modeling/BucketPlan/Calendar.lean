import BucketPlan.Granularity
import BucketPlan.Zone.Basic

/-!
A calendar is a zone and the day on which its weeks start. It says where the
buckets of each granularity begin: minutes and hours at whole units of the wall
clock, days, weeks and months at the first instant of a local date. From one
boundary it leads to the next and to the one before.
-/

namespace BucketPlan

structure Calendar where
  zone : Zone
  weekStart : Weekday := .monday

namespace Calendar

/-! ## Local dates -/

def toLocal (cal : Calendar) (t : Instant) : Except Overflow WallTime := cal.zone.toLocal t

def ofLocal (cal : Calendar) (l : WallTime) : Except Overflow Instant := cal.zone.ofLocal l

/-- The local date of an instant. -/
def dateOf (cal : Calendar) (t : Instant) : Except Overflow Date := do
  return (← cal.toLocal t).date

/-- The first instant of a local date. -/
def dayStart (cal : Calendar) (d : Date) : Except Overflow Instant := cal.zone.startOfDay d

/-- The first instant after a local date, so that the dates from `a` to `b` cover
    the instants from `dayStart a` up to `dayEnd b`. -/
def dayEnd (cal : Calendar) (d : Date) : Except Overflow Instant :=
  cal.dayStart ((d.addDays? 1).getD d)

/-! ## Buckets cut by the clock -/

/-- Goes back to a whole unit of the wall clock, in at most `passes` steps. Each
    step goes back by what the wall clock shows beyond a whole unit; when that
    crosses a change of the offset, the clock shows something else there and
    another step follows. -/
def alignDown (zone : Zone) (unit : Nat) : Nat → Instant → Instant
  | 0, t => t
  | passes + 1, t =>
    let beyond := (t.seconds + (zone.offsetAt t).seconds) % (unit : Int)
    if beyond = 0 then t
    else match Moment.ofSeconds? (t.seconds - beyond) with
      | some earlier => alignDown zone unit passes earlier
      | none => t

/-- The start of the bucket of `unit` seconds that an instant lies in. -/
def clockFloor (cal : Calendar) (unit : Nat) (t : Instant) : Instant :=
  alignDown cal.zone unit 4 t.truncate

/-- The first boundary after `t` among the floors of the instants that many units
    ahead. One unit may not be enough: a change of the offset that is not a whole
    unit joins two buckets. -/
def clockNext? (cal : Calendar) (unit : Nat) (t : Instant) : List Nat → Option Instant
  | [] => none
  | units :: more =>
    match t.addSeconds? (unit * units : Nat) with
    | none => none
    | some ahead =>
      if t < cal.clockFloor unit ahead then some (cal.clockFloor unit ahead)
      else cal.clockNext? unit t more

/-! ## Buckets cut by the calendar -/

/-- The first date of the bucket that a date lies in. -/
def bucketDate (cal : Calendar) (g : Granularity) (d : Date) : Date :=
  match g with
  | .week => d.firstOfWeek cal.weekStart
  | .month => d.firstOfMonth
  | _ => d

/-- The date one bucket after a date: a day or a week later, or the first of the
    next month. -/
def nextDate? (g : Granularity) (d : Date) : Option Date :=
  match g with
  | .week => d.addDays? 7
  | .month => d.firstOfMonth.shiftMonths? 1
  | _ => d.addDays? 1

/-! ## Boundaries -/

/-- The start of the bucket that an instant lies in. -/
def floor (cal : Calendar) (g : Granularity) (t : Instant) : Except Overflow Instant :=
  match g.unitSeconds? with
  | some unit => .ok (cal.clockFloor unit t)
  | none => do
    let date ← cal.dateOf t
    cal.dayStart (cal.bucketDate g date)

/-- The start of the bucket after the one that starts at `t`; there is none at
    the end of the representable years. -/
def next (cal : Calendar) (g : Granularity) (t : Instant) : Except Overflow (Option Instant) :=
  match g.unitSeconds? with
  | some unit => .ok (cal.clockNext? unit t [1, 2, 3])
  | none => do
    match nextDate? g (← cal.dateOf t) with
    | none => return none
    | some date => return some (← cal.dayStart date)

/-- The start of the bucket just before `t`; there is none at the beginning of
    the representable years. -/
def previous (cal : Calendar) (g : Granularity) (t : Instant) : Except Overflow (Option Instant) :=
  match t.addSeconds? (-1) with
  | none => .ok none
  | some before => do return some (← cal.floor g before)

/-- The instant itself when a bucket starts there, else the start of the next
    bucket; at the end of the representable years the last boundary. -/
def ceil (cal : Calendar) (g : Granularity) (t : Instant) : Except Overflow Instant := do
  let start ← cal.floor g t
  if start = t then return start
  return (← cal.next g start).getD start

/-- A bucket starts at the instant. -/
def isBoundary (cal : Calendar) (g : Granularity) (t : Instant) : Except Overflow Bool := do
  return (← cal.floor g t) = t

/-- Repeats a move from boundary to boundary; ends early where there is no next
    one. -/
def walk (move : Instant → Except Overflow (Option Instant)) :
    Nat → Instant → Except Overflow (Option Instant)
  | 0, t => .ok (some t)
  | steps + 1, t => do
    match ← move t with
    | none => return none
    | some there => walk move steps there

/-- The boundary that many buckets after `t`, or before it for a negative number. -/
def step (cal : Calendar) (g : Granularity) (buckets : Int) (t : Instant) :
    Except Overflow (Option Instant) :=
  walk (if buckets < 0 then cal.previous g else cal.next g) buckets.natAbs t

end Calendar

/-! ## Moving by months -/

namespace Moment

/-- The wall-clock time that many months later, on the same day of the month or
    on the last day of a shorter one, at the same time of day. -/
def shiftMonths? (l : WallTime) (months : Int) : Option WallTime := do
  let date ← l.date.shiftMonths? months
  Moment.ofParts? (date.day * 86400 + l.secondOfDay) l.nanos

/-- As many months later; there are never more than a signed number of 32 bits counts. -/
def addMonths? (l : WallTime) (months : UInt32) : Option WallTime :=
  if months.toNat ≤ 2147483647 then l.shiftMonths? months.toNat else none

/-- As many months earlier, with the same bound. -/
def subMonths? (l : WallTime) (months : UInt32) : Option WallTime :=
  if months.toNat ≤ 2147483647 then l.shiftMonths? (-months.toNat) else none

/-- Moves by a signed number of months: by its magnitude, in the direction of its sign. -/
def moveMonths? (l : WallTime) (months : Int32) : Option WallTime :=
  let magnitude := UInt32.ofNat months.toInt.natAbs
  if months < 0 then l.subMonths? magnitude else l.addMonths? magnitude

/-- Every number but the least one has a magnitude that can be moved by. -/
theorem moveMonths?_of_natAbs_le (l : WallTime) {months : Int32} (bound : months.toInt.natAbs ≤ 2147483647) :
    l.moveMonths? months = l.shiftMonths? months.toInt := by
  have magnitude : (UInt32.ofNat months.toInt.natAbs).toNat = months.toInt.natAbs :=
    UInt32.toNat_ofNat_of_lt' (by have : UInt32.size = 4294967296 := rfl; omega)
  have sign : months < 0 ↔ months.toInt < 0 := Int32.lt_iff_toInt_lt
  unfold moveMonths?
  by_cases negative : months < 0
  · have value : -(months.toInt.natAbs : Int) = months.toInt := by have := sign.1 negative; omega
    simp only [negative, if_true, subMonths?, magnitude, bound, value]
  · have value : (months.toInt.natAbs : Int) = months.toInt := by have := mt sign.2 negative; omega
    simp only [negative, if_false, addMonths?, magnitude, bound, if_true, value]

end Moment

namespace Calendar

/-- The instant at which the wall clock shows what it shows at `t`, twelve months
    before. -/
def yearEarlier (cal : Calendar) (t : Instant) : Except Overflow (Option Instant) := do
  match Moment.moveMonths? (← cal.toLocal t) (-12) with
  | none => return none
  | some l => return some (← cal.ofLocal l)

end Calendar

end BucketPlan
