import BucketPlan.Http.MediaType
import BucketPlan.Http.Message
import BucketPlan.Json.Forms

/-!
The body of a request for a plan. It has to be announced as JSON; then its text
is read from the front, and the first problem decides how it is rejected.
-/

namespace BucketPlan

structure PlanRequest where
  startDate : Option String := none
  endDate : Option String := none
  granularity : Option String := none
  timezone : Option String := none
  compareMode : Option String := none
  compareStartDate : Option String := none
  compareEndDate : Option String := none
  filters : List Filter := []
  journeySteps : Option UInt32 := none
  journeyPaths : Option UInt32 := none
deriving DecidableEq

/-- Why a body is not taken. -/
inductive BodyFault where
  | notAnnounced
  | tooLarge
  | notJson
  | misfit
deriving DecidableEq, Repr

/-- What is said of a fault. Of a misfit there is more to say, in the words of the JSON reader. -/
def BodyFault.message (words : String) : BodyFault → String
  | notAnnounced => "Missing Content-Type: application/json header"
  | tooLarge => "Failed to buffer the request body: length limit exceeded"
  | notJson => "Invalid JSON syntax"
  | misfit => "Failed to deserialize the JSON body into the target type: " ++ words

namespace PlanRequest

/-- The fields in the order in which an array gives them. -/
def fields : List String :=
  ["start_date", "end_date", "granularity", "timezone", "compare_mode", "compare_start_date",
   "compare_end_date", "filters", "journey_steps", "journey_paths"]

/-- Takes one field; all but the filters may be `null`. -/
def take (r : PlanRequest) (name : String) : Decoder PlanRequest := fun d => do
  match name with
  | "start_date" => return { r with startDate := ← Decoder.optional Decoder.text d }
  | "end_date" => return { r with endDate := ← Decoder.optional Decoder.text d }
  | "granularity" => return { r with granularity := ← Decoder.optional Decoder.text d }
  | "timezone" => return { r with timezone := ← Decoder.optional Decoder.text d }
  | "compare_mode" => return { r with compareMode := ← Decoder.optional Decoder.text d }
  | "compare_start_date" => return { r with compareStartDate := ← Decoder.optional Decoder.text d }
  | "compare_end_date" => return { r with compareEndDate := ← Decoder.optional Decoder.text d }
  | "filters" => return { r with filters := ← Decoder.list Filter.decode d }
  | "journey_steps" => return { r with journeySteps := ← Decoder.optional Decoder.word d }
  | "journey_paths" => return { r with journeyPaths := ← Decoder.optional Decoder.word d }
  | _ => return r

def decode : Decoder PlanRequest := Decoder.record fields take {}

/-- The request in a body; text behind it is a fault of its own, met last. -/
def ofBody (body : List UInt8) : Except BodyFault PlanRequest :=
  let reading := Draft.read body
  match decode reading.draft with
  | .error .broken => .error .notJson
  | .error .misfit => .error .misfit
  | .ok r => if reading.complete then .ok r else .error .notJson

/-- The greatest number of bytes in a body. -/
def maxBodyBytes : Nat := 2 * 1024 * 1024

/-- The request for a plan that an HTTP request carries. -/
def ofRequest (r : Request) : Except BodyFault PlanRequest :=
  if (((r.header? "content-type").bind headerText?).map MediaType.isJson).getD false then
    if maxBodyBytes < r.body.length then .error .tooLarge else ofBody r.body
  else .error .notAnnounced

end PlanRequest

end BucketPlan
