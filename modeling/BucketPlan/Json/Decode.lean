import BucketPlan.Json.Draft

/-!
Decoders for texts, numbers, names, lists and records. A decoder meets the parts
of a draft in the order of the text, and the first problem decides: either the
text broke there, or a value does not fit.
-/

namespace BucketPlan

/-- Why a draft holds no value of the wanted kind. -/
inductive DecodeFault where
  /-- The text is no JSON at the place that decides. -/
  | broken
  /-- A value is of the wrong kind, a field is missing or doubled, a name is unknown. -/
  | misfit
deriving DecidableEq, Repr

/-- How a value is taken from a draft. -/
abbrev Decoder (α : Type) := Draft → Except DecodeFault α

namespace Draft

/-- The fault of a draft that is not of the wanted kind. It is read to its end
    when it is a scalar, so what is wrong inside a string or a number comes first. -/
def fault : Draft → DecodeFault
  | .cut => .broken
  | .string none => .broken
  | .number none => .broken
  | _ => .misfit

end Draft

namespace Decoder

/-- The outcome of looking a name or a value up. -/
def known {α : Type} : Option α → Except DecodeFault α
  | some a => .ok a
  | none => .error .misfit

def text : Decoder String
  | .string (some s) => .ok s
  | d => .error d.fault

/-- A value or `null`. -/
def optional {α : Type} (item : Decoder α) : Decoder (Option α)
  | .null => .ok none
  | d => some <$> item d

/-- An integer from 0 below 2³², written without point and exponent. -/
def word : Decoder UInt32
  | .number (some (.integer n)) =>
    if 0 ≤ n ∧ n < 4294967296 then .ok (UInt32.ofNat n.toNat) else .error .misfit
  | d => .error d.fault

def list {α : Type} (item : Decoder α) : Decoder (List α)
  | .array items closed => do
    let values ← items.mapM item
    if closed then return values else throw .broken
  | d => .error d.fault

/-- One of a set of names; it may also be written as the only field of an object,
    whose value is `null`. -/
def name {α : Type} (ofName? : String → Option α) : Decoder α
  | .string (some s) => known (ofName? s)
  | .object ((some field, value) :: more) closed => do
    let a ← known (ofName? field)
    match value with
    | .null => if more.isEmpty && closed then return a else throw .broken
    | value => throw value.fault
  | _ => .error .broken

/-! ## Records -/

/-- Goes through the members of an object: fields are taken into the state, other
    names are passed over, and no field may come twice. -/
def takeMembers {σ : Type} (fields : List String) (take : σ → String → Decoder σ) :
    List String → σ → List (Option String × Draft) → Except DecodeFault σ
  | _, state, [] => .ok state
  | _, _, (none, _) :: _ => .error .broken
  | seen, state, (some name, value) :: more =>
    if name ∉ fields then takeMembers fields take seen state more
    else if name ∈ seen then .error .misfit
    else do
      let state ← take state name value
      takeMembers fields take (name :: seen) state more

/-- Goes through the items of an array that holds the fields in their order. -/
def takeItems {σ : Type} (take : σ → String → Decoder σ) :
    List String → σ → List Draft → Bool → Except DecodeFault σ
  | [], state, [], true => .ok state
  | [], _, _, _ => .error .broken
  | _ :: _, _, [], true => .error .misfit
  | _ :: _, _, [], false => .error .broken
  | name :: fields, state, item :: items, closed => do
    let state ← take state name item
    takeItems take fields state items closed

/-- A record: an object of named fields, or an array of all its fields in order.
    `take` puts one field into the state. -/
def record {σ : Type} (fields : List String) (take : σ → String → Decoder σ) (start : σ) : Decoder σ
  | .object members closed => do
    let state ← takeMembers fields take [] start members
    if closed then return state else throw .broken
  | .array items closed => takeItems take fields start items closed
  | d => .error d.fault

end Decoder

/-- The value of a JSON value for a decoder, when it fits. -/
def Json.decode? {α : Type} (decoder : Decoder α) (j : Json) : Option α := (decoder j.draft).toOption

end BucketPlan
