import BucketPlan.Json.Decode
import BucketPlan.Plan

/-!
How the parts of a selection and of a plan are written as JSON, and how those
that are also taken in are read. What is written is read back; the reader allows
more, such as records written as arrays and instants in the relaxed form.
-/

namespace BucketPlan

/-! ## Instants and names -/

def Moment.toJson (t : Instant) : Json := .string t.isoText

/-- An instant in the relaxed form. -/
def Moment.decode : Decoder Instant := fun d => do
  Decoder.known (Moment.readRelaxed? (← Decoder.text d).toList)

def Granularity.toJson (g : Granularity) : Json := .string g.name

def Granularity.decode : Decoder Granularity := Decoder.name Granularity.ofName?

/-! ## Filters and parameters -/

def Filter.toJson (f : Filter) : Json :=
  .object [("column", .string f.column), ("operator", .string f.operator.symbol),
    ("value", .string f.value)]

namespace Filter

/-- The fields of a filter that have been read. -/
structure Partial where
  column : Option String := none
  operator : Option FilterOperator := none
  value : Option String := none

def Partial.take (p : Partial) (name : String) : Decoder Partial := fun d => do
  match name with
  | "column" => return { p with column := some (← Decoder.text d) }
  | "operator" => return { p with operator := some (← Decoder.name FilterOperator.ofSymbol? d) }
  | "value" => return { p with value := some (← Decoder.text d) }
  | _ => return p

/-- A filter, of which every field is needed. -/
def decode : Decoder Filter := fun d => do
  match ← Decoder.record ["column", "operator", "value"] Partial.take {} d with
  | ⟨some column, some operator, some value⟩ => return ⟨column, operator, value⟩
  | _ => throw .misfit

end Filter

/-- A member for a value that may be missing; none is left out. -/
def optionalMember {α : Type} (name : String) (form : α → Json) : Option α → List (String × Json)
  | some a => [(name, form a)]
  | none => []

def wordJson (n : UInt32) : Json := .nat n.toNat

namespace AuxParams

def members (a : AuxParams) : List (String × Json) :=
  optionalMember "journeySteps" wordJson a.journeySteps ++
    optionalMember "journeyPaths" wordJson a.journeyPaths

def toJson (a : AuxParams) : Json := .object a.members

def take (a : AuxParams) (name : String) : Decoder AuxParams := fun d => do
  match name with
  | "journeySteps" => return { a with journeySteps := ← Decoder.optional Decoder.word d }
  | "journeyPaths" => return { a with journeyPaths := ← Decoder.optional Decoder.word d }
  | _ => return a

/-- Parameters, any of which may be missing. -/
def decode : Decoder AuxParams := Decoder.record ["journeySteps", "journeyPaths"] take {}

end AuxParams

/-! ## Periods and comparison modes -/

def Period.toJson (p : Period) : Json :=
  .object [("start", p.start.toJson), ("end", p.stop.toJson), ("timezone", .string p.timezone)]

namespace Period

/-- The fields of a period that have been read. -/
structure Partial where
  start : Option Instant := none
  stop : Option Instant := none
  timezone : Option String := none

def Partial.take (p : Partial) (name : String) : Decoder Partial := fun d => do
  match name with
  | "start" => return { p with start := some (← Moment.decode d) }
  | "end" => return { p with stop := some (← Moment.decode d) }
  | "timezone" => return { p with timezone := some (← Decoder.text d) }
  | _ => return p

/-- A period, of which every field is needed. -/
def decode : Decoder Period := fun d => do
  match ← Decoder.record ["start", "end", "timezone"] Partial.take {} d with
  | ⟨some start, some stop, some timezone⟩ => return ⟨start, stop, timezone⟩
  | _ => throw .misfit

end Period

namespace CompareMode

/-- The name of the mode in its JSON form; other than in requests, the mode
    without comparison is called `off`. -/
def tag : CompareMode → String
  | off => "off"
  | mode => mode.slug

def toJson : CompareMode → Json
  | custom start stop =>
    .object [("mode", .string (custom start stop).tag), ("start", start.toJson), ("end", stop.toJson)]
  | mode => .object [("mode", .string mode.tag)]

/-- The two ends of a custom comparison. -/
structure Ends where
  start : Option Instant := none
  stop : Option Instant := none

def Ends.take (e : Ends) (name : String) : Decoder Ends := fun d => do
  match name with
  | "start" => return { e with start := some (← Moment.decode d) }
  | "end" => return { e with stop := some (← Moment.decode d) }
  | _ => return e

/-- The mode with a tag, whose other fields are read as the record `rest`. Modes
    other than the custom one have no further fields: as items they may not be
    there, as members they are passed over. -/
def ofTag (tag : String) (rest : Draft) : Except DecodeFault CompareMode :=
  match tag with
  | "off" => (fun _ => off) <$> Decoder.record [] (fun s _ _ => .ok s) () rest
  | "previous_period" => (fun _ => previousPeriod) <$> Decoder.record [] (fun s _ _ => .ok s) () rest
  | "previous_year" => (fun _ => previousYear) <$> Decoder.record [] (fun s _ _ => .ok s) () rest
  | "custom" => do
    match ← Decoder.record ["start", "end"] Ends.take {} rest with
    | ⟨some start, some stop⟩ => return custom start stop
    | _ => throw .misfit
  | _ => .error .misfit

/-- A mode as an object with one field `mode`, or as an array that begins with it. -/
def decode : Decoder CompareMode
  | .object members closed =>
    match members.partition fun member => member.1 = some "mode" with
    | ([(_, tag)], rest) => do ofTag (← Decoder.text tag) (.object rest closed)
    | _ => .error .misfit
  | .array (tag :: items) closed => do
    ofTag (← Decoder.text tag) (.array items closed)
  | d => .error d.fault

end CompareMode

/-! ## Plans -/

namespace SiteQuery

def toJson (q : SiteQuery) : Json :=
  .object ([("siteId", .string q.siteId), ("startDate", .string q.startDate),
    ("endDate", .string q.endDate), ("granularity", q.granularity.toJson),
    ("queryFilters", .array (q.filters.map Filter.toJson)), ("timezone", .string q.timezone)] ++
    q.aux.members)

end SiteQuery

namespace SiteQueries

def toJson (q : SiteQueries) : Json :=
  .object [("main", q.main.toJson), ("compare", .optional SiteQuery.toJson q.compare)]

end SiteQueries

namespace BucketSequence

def toJson (s : BucketSequence) : Json :=
  .object [("granularity", s.granularity.toJson), ("timezone", .string s.timezone),
    ("starts", .array (s.starts.map Moment.toJson))]

end BucketSequence

namespace AlignedBucket

def toJson (a : AlignedBucket) : Json :=
  .object [("index", .nat a.index), ("bucket", a.bucket.toJson),
    ("compare_bucket", .optional Moment.toJson a.compareBucket)]

end AlignedBucket

namespace ComparisonMetadata

/-- The two ends of a range. -/
def rangeJson (r : String × String) : Json := .array [.string r.1, .string r.2]

def toJson (m : ComparisonMetadata) : Json :=
  .object [("mode", .string m.mode), ("primary_range", rangeJson m.primaryRange),
    ("comparison_range", rangeJson m.comparisonRange)]

end ComparisonMetadata

end BucketPlan
