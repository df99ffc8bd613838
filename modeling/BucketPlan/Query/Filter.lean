import BucketPlan.Text.Blank
import BucketPlan.Text.Quoted

namespace BucketPlan

inductive FilterOperator where
  | equal
  | notEqual
deriving DecidableEq, Repr

def FilterOperator.symbol : FilterOperator → String
  | equal => "="
  | notEqual => "!="

/-- The operator with exactly that symbol. -/
def FilterOperator.ofSymbol? (text : String) : Option FilterOperator :=
  [FilterOperator.equal, .notEqual].find? fun o => text = o.symbol

/-- Keeps the rows of a query whose column has, or has not, some value. -/
structure Filter where
  column : String
  operator : FilterOperator
  value : String
deriving DecidableEq, Repr

/-- Why a filter is not accepted. -/
inductive FilterFault where
  | unknownColumn (column : String)
  | emptyValue (column : String)
  | longValue (column : String)
deriving DecidableEq, Repr

namespace Filter

/-- The columns that rows can be filtered by. -/
def columns : List String :=
  ["page", "referrer", "country", "region", "city", "browser", "os", "device", "language",
   "screen", "event_name", "utm_source", "utm_medium", "utm_campaign", "hostname"]

/-- Greatest length of a value, in bytes of UTF-8 and without the blanks around it. -/
def maxValueBytes : Nat := 256

/-- The first thing that is wrong with a filter: its column, then its value. -/
def fault? (f : Filter) : Option FilterFault :=
  let value := Blank.trimText f.value
  if f.column ∉ columns then some (.unknownColumn f.column)
  else if value = "" then some (.emptyValue f.column)
  else if maxValueBytes < value.utf8ByteSize then some (.longValue f.column)
  else none

end Filter

def FilterFault.message : FilterFault → String
  | unknownColumn column => "unknown column " ++ Quoted.quote column
  | emptyValue column => column ++ " value cannot be empty"
  | longValue column =>
    column ++ " value is too long (max " ++ toString Filter.maxValueBytes ++ " characters)"

end BucketPlan
