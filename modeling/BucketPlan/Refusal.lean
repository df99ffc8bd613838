import BucketPlan.Comparison.Mode
import BucketPlan.Granularity
import BucketPlan.Moment.Overflow
import BucketPlan.Moment.Text
import BucketPlan.Query.Filter

/-!
Why a selection is not planned, each cause with a stable code, a message and the
request field it is about. A computation that can refuse can also leave the
representable years; `Failure` holds both ways of having no answer.
-/

namespace BucketPlan

/-- The fields of a request that hold a date. -/
inductive DateField where
  | startDate | endDate | compareStartDate | compareEndDate
deriving DecidableEq, Repr

def DateField.name : DateField → String
  | startDate => "start_date"
  | endDate => "end_date"
  | compareStartDate => "compare_start_date"
  | compareEndDate => "compare_end_date"

inductive Refusal where
  | unknownGranularity (raw : String)
  /-- The period starts after its end, as given or once aligned to buckets. -/
  | reversedPeriod (start stop : Instant)
  | bucketsOutOfBounds (granularity : Granularity) (buckets : Nat)
  /-- The derived period has another number of buckets, or does not exist (0). -/
  | comparisonInfeasible (mode : CompareMode) (main compare : Nat)
  /-- The selected period has another number of buckets. -/
  | comparisonUneven (main compare : Nat)
  | unknownTimezone (raw : String)
  | unknownCompareMode (raw : String)
  | missingCustomRange
  | unreadableDate (field : DateField)
  | badFilter (fault : FilterFault)
deriving DecidableEq

namespace Refusal

/-- Code by which programs tell refusals apart. -/
def code : Refusal → String
  | unknownGranularity _ => "invalid_granularity"
  | reversedPeriod _ _ => "invalid_period"
  | bucketsOutOfBounds _ _ => "period_out_of_bounds"
  | comparisonInfeasible _ _ _ => "compare_infeasible"
  | comparisonUneven _ _ => "compare_bucket_mismatch"
  | unknownTimezone _ => "invalid_timezone"
  | unknownCompareMode _ => "invalid_compare_mode"
  | missingCustomRange => "missing_custom_range"
  | unreadableDate _ => "invalid_date"
  | badFilter _ => "invalid_filter"

/-- The request field that is at fault, when there is a single one. -/
def field? : Refusal → Option String
  | unknownGranularity _ => some "granularity"
  | unknownTimezone _ => some "timezone"
  | unknownCompareMode _ => some "compare_mode"
  | unreadableDate field => some field.name
  | badFilter _ => some "filters"
  | comparisonUneven _ _ | missingCustomRange => some DateField.compareStartDate.name
  | reversedPeriod _ _ | bucketsOutOfBounds _ _ | comparisonInfeasible _ _ _ => none

def message : Refusal → String
  | unknownGranularity raw =>
    "granularity must be one of: minute, hour, day, week, month (got " ++ Quoted.quote raw ++ ")"
  | reversedPeriod start stop =>
    "start (" ++ start.messageText ++ ") must be on or before end (" ++ stop.messageText ++ ")"
  | bucketsOutOfBounds g buckets =>
    "period spans " ++ toString buckets ++ " " ++ g.name ++ " buckets (allowed " ++
      toString g.bounds.minBuckets ++ " to " ++ toString g.bounds.maxBuckets ++ ")"
  | comparisonInfeasible mode main compare =>
    mode.slug ++ " comparison cannot keep " ++ toString main ++ " buckets (would have " ++
      toString compare ++ ")"
  | comparisonUneven main compare =>
    "custom comparison has " ++ toString compare ++ " buckets but the main period has " ++
      toString main
  | unknownTimezone raw => "invalid timezone: " ++ Quoted.quote raw
  | unknownCompareMode _ =>
    "compare_mode must be one of: none, previous_period, previous_year, custom"
  | missingCustomRange =>
    "compare_start_date and compare_end_date are required for custom compare"
  | unreadableDate field => "invalid " ++ field.name ++ " (expected YYYY-MM-DD or RFC 3339)"
  | badFilter fault => "invalid filter: " ++ fault.message

end Refusal

/-- Why a computation has no answer. -/
inductive Failure where
  | overflow
  | refused (reason : Refusal)
deriving DecidableEq

/-- An overflow, as the failure of a larger computation. -/
def Overflow.lift {α : Type} : Except Overflow α → Except Failure α
  | .ok a => .ok a
  | .error _ => .error .overflow

/-- A refusal, as the failure of a larger computation. -/
def Refusal.lift {α : Type} : Except Refusal α → Except Failure α
  | .ok a => .ok a
  | .error r => .error (.refused r)

instance : MonadLift (Except Overflow) (Except Failure) := ⟨Overflow.lift⟩

instance : MonadLift (Except Refusal) (Except Failure) := ⟨Refusal.lift⟩

theorem Overflow.lift_eq_ok_iff {α : Type} {x : Except Overflow α} {a : α} :
    Overflow.lift x = .ok a ↔ x = .ok a := by cases x <;> simp [Overflow.lift]

theorem Refusal.lift_eq_ok_iff {α : Type} {x : Except Refusal α} {a : α} :
    Refusal.lift x = .ok a ↔ x = .ok a := by cases x <;> simp [Refusal.lift]

/-! ## Reading names -/

/-- The granularity that a text names, in any case and with blanks around it. -/
def Granularity.read (raw : String) : Except Refusal Granularity :=
  match Granularity.ofName? (String.ofList ((Blank.trim raw.toList).map Char.toLower)) with
  | some g => .ok g
  | none => .error (.unknownGranularity raw)

/-- The mode that a text names; a custom comparison needs both of its ends. -/
def CompareMode.read (raw : Option String) (start stop : Option Instant) :
    Except Refusal CompareMode :=
  match raw.map Blank.trimText with
  | none | some "" | some "none" | some "off" => .ok .off
  | some "previous_period" => .ok .previousPeriod
  | some "previous_year" => .ok .previousYear
  | some "custom" =>
    match start, stop with
    | some start, some stop => .ok (.custom start stop)
    | _, _ => .error .missingCustomRange
  | some other => .error (.unknownCompareMode other)

/-- Refuses a filter that has a fault. -/
def Filter.check (f : Filter) : Except Refusal Unit :=
  match f.fault? with
  | some fault => .error (.badFilter fault)
  | none => .ok ()

end BucketPlan
