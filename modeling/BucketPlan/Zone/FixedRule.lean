import BucketPlan.Zone.Basic

namespace BucketPlan

/-- The instants from `start` up to `stop` have their own offset. -/
structure Daylight where
  offset : Offset
  start : Instant
  stop : Instant
deriving DecidableEq

/-- A standard offset, and at most one window of instants with another offset. -/
structure FixedRule where
  id : String
  standard : Offset
  daylight : Option Daylight
deriving DecidableEq

namespace FixedRule

/-- The daylight offset within its window, else the standard one. -/
def offsetAt (r : FixedRule) (t : Instant) : Offset :=
  match r.daylight with
  | some w => if w.start ≤ t ∧ t < w.stop then w.offset else r.standard
  | none => r.standard

/-- The local time exists under the offset `o`: the instant that `o` gives for it
    has just this offset. -/
def admits (r : FixedRule) (l : WallTime) (o : Offset) : Except Overflow Bool := do
  let t ← o.instant l
  return r.offsetAt t = o

/-- The offsets that admit the local time, the one with the earlier instant first. -/
def offsetsFor (r : FixedRule) (l : WallTime) : Except Overflow LocalOffsets := do
  let standard ← r.admits l r.standard
  match r.daylight with
  | none => return if standard then .once r.standard else .skipped
  | some w =>
    let daylight ← r.admits l w.offset
    return match standard, daylight with
      | false, false => .skipped
      | true, false => .once r.standard
      | false, true => .once w.offset
      | true, true =>
        if r.standard = w.offset then .once r.standard
        else if w.offset.seconds < r.standard.seconds then .twice r.standard w.offset
        else .twice w.offset r.standard

/-- The zone of the rule. -/
def zone (r : FixedRule) : Zone := ⟨r.id, r.offsetAt, r.offsetsFor⟩

end FixedRule

end BucketPlan
