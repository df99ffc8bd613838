import BucketPlan.Json.Value

namespace BucketPlan

/-- The characters of a header value that is text: tabs and visible ASCII. -/
def isHeaderText (c : Char) : Bool := c = '\t' || (32 ≤ c.toNat && c.toNat < 127)

/-- A header value as text; none when it holds other bytes. -/
def headerText? (value : String) : Option String :=
  if value.toList.all isHeaderText then some value else none

/-- As much of a request as the service looks at. -/
structure Request where
  method : String
  /-- Path and query, as they stand in the request line; a host may come before
      them. -/
  target : String
  headers : List (String × String)
  body : List UInt8

/-- The value of the first header with a name, whatever the case of its letters. -/
def Request.header? (r : Request) (name : String) : Option String :=
  (r.headers.find? fun h => h.1.toList.map Char.toLower = name.toList).map (·.2)

inductive Body where
  | empty
  | text (content : String)
  | json (content : Json)

structure Response where
  status : Nat
  /-- The header that tells which origins may read the response. -/
  allowOrigin : Option String := none
  body : Body := .empty

/-- The header that tells which origins may read the response, as text. -/
def Response.allowOriginText? (r : Response) : Option String := r.allowOrigin.bind headerText?

/-- A JSON answer that reports a problem. -/
def Response.problem (status : Nat) (code message : String) (field : Option String) : Response where
  status := status
  body := .json (.object [("error", .object [("code", .string code), ("message", .string message),
    ("field", .optional Json.string field)])])

end BucketPlan
