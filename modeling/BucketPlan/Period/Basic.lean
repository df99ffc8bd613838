import BucketPlan.Moment.Basic

namespace BucketPlan

/-- The instants from `start` up to, and without, `stop`. -/
structure Period where
  start : Instant
  stop : Instant
  timezone : String
deriving DecidableEq

namespace Period

def Contains (p : Period) (t : Instant) : Prop := p.start ≤ t ∧ t < p.stop

instance (p : Period) (t : Instant) : Decidable (p.Contains t) := inferInstanceAs (Decidable (_ ∧ _))

/-- Length in nanoseconds. -/
def nanos (p : Period) : Int := p.stop.nanosSince p.start

/-- Length in whole seconds, rounded toward zero. -/
def seconds (p : Period) : Int := p.stop.secondsSince p.start

end Period

end BucketPlan
