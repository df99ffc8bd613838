import BucketPlan.Zone.Database

namespace BucketPlan

/-- What a server is configured with. Every setting has a default. -/
structure Settings where
  port : UInt16 := 3000
  /-- Origins that may read the answers; when there are none, any may. -/
  corsOrigins : List String := []
  /-- The zone of requests that name none. -/
  defaultTimezone : String := "UTC"
  weekStart : Weekday := .monday
  /-- Days before today with which a selection starts that names no start. -/
  defaultLookbackDays : Nat := 6
deriving DecidableEq

/-- Why a text is no port. -/
inductive PortFault where
  | empty
  | notANumber
  | tooLarge
deriving DecidableEq, Repr

inductive SettingsError where
  | timezone (raw : String)
  | port (fault : PortFault)
  | weekStart (raw : String)
  | lookbackDays
deriving DecidableEq, Repr

def PortFault.message : PortFault → String
  | empty => "cannot parse integer from empty string"
  | notANumber => "invalid digit found in string"
  | tooLarge => "number too large to fit in target type"

def SettingsError.message : SettingsError → String
  | timezone raw => "LUMENSTAT_DEFAULT_TIMEZONE: " ++ (Refusal.unknownTimezone raw).message
  | port fault => "invalid port: " ++ fault.message
  | weekStart raw => "invalid LUMENSTAT_WEEK_START: " ++ Quoted.quote raw
  | lookbackDays => "LUMENSTAT_DEFAULT_LOOKBACK_DAYS must be 0..=365"

/-- The day that a text names as the first of the week. -/
def Weekday.read (raw : String) : Except SettingsError Weekday :=
  match Weekday.ofName? (Blank.trimText raw) with
  | some day => .ok day
  | none => .error (.weekStart raw)

namespace Settings

/-- Takes the digits of a port one by one; the first that is none, or that makes
    the number too large, decides. -/
def portDigits (n : Nat) : List Char → Except PortFault UInt16
  | [] => .ok (UInt16.ofNat n)
  | c :: cs =>
    if c.isDigit then
      let m := n * 10 + (c.toNat - '0'.toNat)
      if 65535 < m then .error .tooLarge else portDigits m cs
    else .error .notANumber

/-- A port: digits, with a plus sign allowed in front. -/
def readPort (raw : String) : Except PortFault UInt16 :=
  match raw.toList with
  | [] => .error .empty
  | ['+'] => .error .notANumber
  | '+' :: digits => portDigits 0 digits
  | digits => portDigits 0 digits

/-- The entries of a list with commas, without blanks around them and without
    empty ones. -/
def readOrigins (raw : String) : List String :=
  ((raw.toList.splitOn ',').map fun entry => String.ofList (Blank.trim entry)).filter (· ≠ "")

/-- An integer with an optional sign. -/
def readInteger? (cs : List Char) : Option Int :=
  match cs with
  | '-' :: digits => (natural? digits).map fun n => -(n : Int)
  | '+' :: digits => (natural? digits).map fun n => (n : Int)
  | digits => (natural? digits).map fun n => (n : Int)
where
  natural? (digits : List Char) : Option Nat :=
    if digits ≠ [] ∧ digits.all Char.isDigit then some (Numeral.value digits) else none

/-- A number of days from 0 to 365. -/
def readLookbackDays (raw : String) : Except SettingsError Nat :=
  match readInteger? raw.toList with
  | some n => if 0 ≤ n ∧ n ≤ 365 then .ok n.toNat else .error .lookbackDays
  | none => .error .lookbackDays

/-- The variables that settings are read from. -/
def variableNames : List String :=
  ["LUMENSTAT_DEFAULT_TIMEZONE", "LUMENSTAT_PORT", "LUMENSTAT_CORS_ORIGINS", "LUMENSTAT_WEEK_START",
   "LUMENSTAT_DEFAULT_LOOKBACK_DAYS"]

/-- The settings under an environment, given as the values of its variables. The zone has to be one
    of the database. -/
def ofEnvironment (zones : ZoneDatabase) (value : String → Option String) : Except SettingsError Settings := do
  let timezone := (value "LUMENSTAT_DEFAULT_TIMEZONE").getD "UTC"
  if (zones.named? timezone).isNone then throw (.timezone timezone)
  else
    let port ← (readPort ((value "LUMENSTAT_PORT").getD "3000")).mapError SettingsError.port
    let weekStart ← Weekday.read ((value "LUMENSTAT_WEEK_START").getD "monday")
    let days ← readLookbackDays ((value "LUMENSTAT_DEFAULT_LOOKBACK_DAYS").getD "6")
    return {
      port := port
      corsOrigins := ((value "LUMENSTAT_CORS_ORIGINS").map readOrigins).getD []
      defaultTimezone := Blank.trimText timezone
      weekStart := weekStart
      defaultLookbackDays := days }

end Settings

end BucketPlan
