import BucketPlan.Http.Origin
import BucketPlan.Http.Target
import BucketPlan.Service.Bounds
import BucketPlan.Service.PlanRequest
import BucketPlan.Settings

namespace BucketPlan

/-- A configured service. -/
structure App where
  settings : Settings
  /-- The time zone database in which requests name zones. -/
  zones : ZoneDatabase
  /-- What a JSON reader says of a body that is JSON and no request. -/
  misfitWords : List UInt8 → String
  defaultZone : Zone
  origins : OriginPolicy

/-- Why a service does not start. -/
inductive StartFault where
  | unknownTimezone (raw : String)
  /-- A star stands among the configured origins. -/
  | wildcardOrigin
deriving DecidableEq, Repr

def StartFault.message : StartFault → String
  | unknownTimezone raw => (Refusal.unknownTimezone raw).message
  | wildcardOrigin => "a star cannot be listed among the origins"

/-- The service for some settings, with a time zone database and the words of a JSON reader. -/
def App.build (zones : ZoneDatabase) (misfitWords : List UInt8 → String) (settings : Settings) :
    Except StartFault App :=
  match zones.named? settings.defaultTimezone with
  | none => .error (.unknownTimezone settings.defaultTimezone)
  | some zone =>
    match OriginPolicy.ofOrigins? settings.corsOrigins with
    | none => .error .wildcardOrigin
    | some origins => .ok ⟨settings, zones, misfitWords, zone, origins⟩

/-- What it takes to build a service: a zone that is known, and no star among the origins. -/
theorem App.build_eq_ok_iff {zones : ZoneDatabase} {words : List UInt8 → String} {settings : Settings} {app : App} :
    App.build zones words settings = .ok app ↔ ∃ z policy, zones.named? settings.defaultTimezone = some z ∧
      OriginPolicy.ofOrigins? settings.corsOrigins = some policy ∧ app = ⟨settings, zones, words, z, policy⟩ := by
  unfold App.build
  split
  · next none => simp [none]
  · next z named =>
    split
    · next none => simp [none]
    · next policy made => simp [named, made, eq_comm]

/-- Website ids are 1 to 64 ASCII letters, digits, underscores and hyphens. -/
def IsWebsiteId (id : String) : Prop :=
  1 ≤ id.length ∧ id.length ≤ 64 ∧ ∀ c ∈ id.toList, c.isAlphanum = true ∨ c = '_' ∨ c = '-'

instance (id : String) : Decidable (IsWebsiteId id) :=
  -- The characters of the id are looked at, not all characters there are.
  have := List.decidableBAll (fun c : Char => c.isAlphanum = true ∨ c = '_' ∨ c = '-') id.toList
  inferInstanceAs (Decidable (_ ∧ _))

namespace App

/-! ## Plans -/

/-- The calendar of a request: in its own zone, else in the configured one. -/
def calendar (app : App) (timezone : Option String) : Except Refusal Calendar := do
  let zone ← match timezone with
    | some raw => app.zones.read raw
    | none => pure app.defaultZone
  return ⟨zone, app.settings.weekStart⟩

/-- The granularity of a request: the named one, else the one that suits its dates. -/
def granularityOf (cal : Calendar) (named : Option String) (start stop : Instant) :
    Except Failure Granularity :=
  match named with
  | some raw => Refusal.lift (Granularity.read raw)
  | none => do
    let (first, last) ← cal.dateSpan start stop
    return Granularity.forDates first last

/-- The comparison of a request. Its ends are read before its mode is, even where
    the mode does not need them. -/
def comparisonOf (cal : Calendar) (r : PlanRequest) : Except Failure CompareMode := do
  let start ← cal.readBound? .compareStartDate .start r.compareStartDate
  let stop ← cal.readBound? .compareEndDate .stop r.compareEndDate
  Refusal.lift (CompareMode.read r.compareMode start stop)

/-- The selection of a request. -/
def selectionOf (app : App) (now : Instant) (cal : Calendar) (r : PlanRequest) :
    Except Failure Selection := do
  let (start, stop) ← cal.readSelection now app.settings.defaultLookbackDays r.startDate r.endDate
  let granularity ← granularityOf cal r.granularity start stop
  let compare ← comparisonOf cal r
  return ⟨start, stop, granularity, compare, r.filters, ⟨r.journeySteps, r.journeyPaths⟩⟩

/-- The starts of buckets, to the second. -/
def startsJson (s : BucketSequence) : Json := .array (s.starts.map fun t => .string t.isoSecondsText)

def labelsJson (labels : List String) : Json := .array (labels.map Json.string)

/-- A plan as the answer to a request. -/
def planJson (cal : Calendar) (g : Granularity) (plan : QueryPlan) : Except Overflow Json := do
  let mainLabels ← cal.labels plan.mainBuckets
  let compareLabels ← plan.compareBuckets.mapM cal.labels
  let data : Json := .object [
    ("main", plan.queries.main.toJson),
    ("compare", .optional SiteQuery.toJson plan.queries.compare),
    ("granularity", g.toJson),
    ("timezone", .string cal.zone.id),
    ("buckets", .object [("main", startsJson plan.mainBuckets),
      ("compare", .optional startsJson plan.compareBuckets)]),
    ("labels", .object [("main", labelsJson mainLabels),
      ("compare", .optional labelsJson compareLabels)])]
  return .object (("data", data) :: optionalMember "compare" ComparisonMetadata.toJson plan.comparison)

/-- The answer to a request for a plan. -/
def planAnswer (app : App) (now : Instant) (id : String) (r : PlanRequest) : Except Failure Json := do
  let cal ← app.calendar r.timezone
  let selection ← app.selectionOf now cal r
  let plan ← cal.plan id selection
  planJson cal selection.granularity plan

/-- The response to a request for a plan: the id is looked at before the body. -/
def respondPlan (app : App) (now : Instant) (id : String) (r : Request) : Except Overflow Response :=
  if ¬ IsWebsiteId id then .ok (.problem 404 "not_found" "Website not found" none)
  else match PlanRequest.ofRequest r with
    | .error fault => .ok (.problem 400 "invalid_body" (fault.message (app.misfitWords r.body)) none)
    | .ok body =>
      match app.planAnswer now id body with
      | .ok json => .ok { status := 200, body := .json json }
      | .error (.refused reason) => .ok (.problem 400 reason.code reason.message reason.field?)
      | .error .overflow => .error .outOfRange

/-! ## Other resources -/

def healthJson : Json := .object [("status", .string "ok"), ("version", .string "0.1.0")]

def granularityJson (g : Granularity) : Json :=
  .object [("name", g.toJson), ("label_key", .string g.labelKey),
    ("min_buckets", .nat g.bounds.minBuckets), ("max_buckets", .nat g.bounds.maxBuckets),
    ("calendar", .bool g.isCalendar)]

def granularitiesJson : Json := .object [("data", .array (Granularity.all.map granularityJson))]

/-- The response of a resource that can only be read. -/
def respondFixed (json : Json) (method : String) : Response :=
  if method = "GET" then { status := 200, body := .json json }
  else if method = "HEAD" then { status := 200 }
  else { status := 405 }

/-- The response to a request that is no inquiry about origins. The id of a website may be the empty
    segment: the path is known, and no website has that id. -/
def route (app : App) (now : Instant) (r : Request) : Except Overflow Response :=
  match Target.segments r.target with
  | ["", "health"] => .ok (respondFixed healthJson r.method)
  | ["", "api", "granularities"] => .ok (respondFixed granularitiesJson r.method)
  | ["", "api", "websites", segment, "query-plan"] =>
    if r.method ≠ "POST" then .ok { status := 405 }
    else match Target.segmentText? segment with
      | none => .ok { status := 400, body := .text "Invalid URL: Invalid UTF-8 in `id`" }
      | some id => app.respondPlan now id r
  | _ => .ok { status := 404 }

/-- The response to a request at an instant. Inquiries about origins are answered
    for every path. -/
def respond (app : App) (now : Instant) (r : Request) : Except Overflow Response := do
  let response ← if r.method = "OPTIONS" then pure { status := 200 } else app.route now r
  return { response with allowOrigin := app.origins.answer (r.header? "origin") }

end App

end BucketPlan
