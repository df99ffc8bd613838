import BucketPlan.Period.Normalize

namespace BucketPlan

/-- The end of a selection that a text gives. -/
inductive Bound where
  | start
  | stop
deriving DecidableEq, Repr

/-- The instant that a date gives for an end of a selection: the first of the day,
    or the first after it. -/
def Bound.ofDate (bound : Bound) (cal : Calendar) (d : Date) : Except Overflow Instant :=
  match bound with
  | .start => cal.dayStart d
  | .stop => cal.dayEnd d

namespace Calendar

/-- Reads one end of a selection, blanks around it aside. -/
def readBound (cal : Calendar) (field : DateField) (bound : Bound) (raw : String) :
    Except Failure Instant :=
  let cs := Blank.trim raw.toList
  match Date.read? cs with
  | some d => Overflow.lift (bound.ofDate cal d)
  | none =>
    match Moment.readIso? cs with
    | some t => .ok t
    | none => .error (.refused (.unreadableDate field))

/-- Reads an end of a selection that may be missing. -/
def readBound? (cal : Calendar) (field : DateField) (bound : Bound) (raw : Option String) :
    Except Failure (Option Instant) :=
  raw.mapM (cal.readBound field bound)

/-- The date that many days before. -/
def daysBefore (d : Date) (days : Nat) : Except Overflow Date := orOverflow (d.addDays? (-(days : Int)))

/-- Both ends of a selection; a missing start is `lookbackDays` before today, a
    missing end is the end of today. -/
def readSelection (cal : Calendar) (now : Instant) (lookbackDays : Nat) (start stop : Option String) :
    Except Failure (Instant × Instant) := do
  let today ← cal.dateOf now
  let start ← match ← cal.readBound? .startDate .start start with
    | some t => pure t
    | none => do Overflow.lift (cal.dayStart (← daysBefore today lookbackDays))
  let stop ← match ← cal.readBound? .endDate .stop stop with
    | some t => pure t
    | none => Overflow.lift (cal.dayEnd today)
  return (start, stop)

/-- The local dates that the instants from `start` up to `stop` touch. -/
def dateSpan (cal : Calendar) (start stop : Instant) : Except Overflow (Date × Date) := do
  let last := Moment.latest (← stop.plus (-1)) start
  return (← cal.dateOf start, ← cal.dateOf last)

end Calendar

end BucketPlan
