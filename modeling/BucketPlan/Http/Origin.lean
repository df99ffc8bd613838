namespace BucketPlan

/-- The origins that are let in. -/
inductive OriginPolicy where
  | any
  | listed (origins : List String)
deriving DecidableEq

namespace OriginPolicy

/-- A byte that a header value may hold: a tab, or any byte but the controls. -/
def isHeaderByte (b : UInt8) : Bool := b = 9 || (32 ≤ b && b ≠ 127)

/-- A text that can stand as the value of a header. -/
def IsHeaderValue (s : String) : Prop := ∀ b ∈ s.toUTF8.toList, isHeaderByte b = true

instance (s : String) : Decidable (IsHeaderValue s) := inferInstanceAs (Decidable (∀ b ∈ _, _))

/-- The policy for the configured origins: none of them lets any in; otherwise
    those that can stand in a header are listed. A star cannot be listed. -/
def ofOrigins? (origins : List String) : Option OriginPolicy :=
  if origins = [] then some .any
  else
    let usable := origins.filter fun o => decide (IsHeaderValue o)
    if "*" ∈ usable then none else some (.listed usable)

/-- What the response says to a request from an origin. -/
def answer (p : OriginPolicy) (origin : Option String) : Option String :=
  match p with
  | any => some "*"
  | listed origins => origin.filter (· ∈ origins)

end OriginPolicy

end BucketPlan
