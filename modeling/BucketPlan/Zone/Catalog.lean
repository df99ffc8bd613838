import BucketPlan.Zone.Database
import BucketPlan.Zone.Records.Africa
import BucketPlan.Zone.Records.America
import BucketPlan.Zone.Records.Asia
import BucketPlan.Zone.Records.Europe
import BucketPlan.Zone.Records.Ocean

/-!
A small time zone database: some thirty of the several hundred names of the whole one, with their
records up to the end of 2099. The service takes any database; only the command line and runs on
fixed inputs use this one.
-/

namespace BucketPlan

namespace ZoneRecord

/-- The known names and their records. -/
def catalog : List (String × ZoneRecord) :=
  [("UTC", .fixed (east 0 0 0)),
   ("Etc/UTC", .fixed (east 0 0 0)),
   ("GMT", .fixed (east 0 0 0)),
   ("Etc/GMT+12", .fixed (west 12 0 0)),
   ("Etc/GMT-14", .fixed (east 14 0 0)),
   ("America/New_York", .newYork),
   ("US/Eastern", .newYork),
   ("Europe/London", .london),
   ("Europe/Berlin", .berlin),
   ("Asia/Tokyo", .tokyo),
   ("Asia/Kolkata", .kolkata),
   ("Asia/Kathmandu", .kathmandu),
   ("Australia/Lord_Howe", .lordHowe),
   ("Pacific/Apia", .apia),
   ("Pacific/Kwajalein", .kwajalein),
   ("America/Sao_Paulo", .saoPaulo),
   ("America/Havana", .havana),
   ("America/St_Johns", .stJohns),
   ("Pacific/Chatham", .chatham),
   ("Africa/Monrovia", .monrovia),
   ("Antarctica/Troll", .troll),
   ("Atlantic/Azores", .azores),
   ("Asia/Manila", .manila),
   ("America/Sitka", .sitka),
   ("Africa/Cairo", .cairo),
   ("Asia/Pyongyang", .pyongyang),
   ("Asia/Beirut", .beirut),
   ("America/Caracas", .caracas),
   ("Pacific/Kiritimati", .kiritimati),
   ("Asia/Tehran", .tehran),
   ("Europe/Dublin", .dublin),
   ("Asia/Katmandu", .kathmandu),
   ("America/Scoresbysund", .scoresbysund)]

end ZoneRecord

/-- The database of the catalog. -/
def ZoneDatabase.ofCatalog : ZoneDatabase where
  find? name := (ZoneRecord.catalog.lookup name).map fun r => (ZoneTable.ofRecord name r).zone

end BucketPlan
