import BucketPlan.Refusal
import BucketPlan.Text.Blank
import BucketPlan.Zone.Basic

/-!
Zones by name. Which names there are and what they stand for is recorded in a time zone database,
which is handed to the service; all that is asked of it is the zone under one name.
-/

namespace BucketPlan

/-- A time zone database. -/
structure ZoneDatabase where
  /-- The zone whose name is exactly this text. -/
  find? : String → Option Zone

namespace ZoneDatabase

/-- The zone that a text names, blanks around the name aside; a blank text names none. -/
def named? (zones : ZoneDatabase) (raw : String) : Option Zone :=
  if Blank.trimText raw = "" then none else zones.find? (Blank.trimText raw)

/-- Reads the name of a zone. -/
def read (zones : ZoneDatabase) (raw : String) : Except Refusal Zone :=
  match zones.named? raw with
  | some z => .ok z
  | none => .error (.unknownTimezone raw)

end ZoneDatabase

end BucketPlan
