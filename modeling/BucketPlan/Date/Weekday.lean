namespace BucketPlan

inductive Weekday where
  | monday | tuesday | wednesday | thursday | friday | saturday | sunday
deriving DecidableEq, Repr

namespace Weekday

/-- All weekdays, Monday first. -/
def all : List Weekday := [monday, tuesday, wednesday, thursday, friday, saturday, sunday]

/-- Days since the last Monday. -/
def index : Weekday → Nat
  | monday => 0
  | tuesday => 1
  | wednesday => 2
  | thursday => 3
  | friday => 4
  | saturday => 5
  | sunday => 6

/-- The weekday that many days after a Monday. -/
def ofIndex (n : Nat) : Weekday :=
  match n % 7 with
  | 0 => monday
  | 1 => tuesday
  | 2 => wednesday
  | 3 => thursday
  | 4 => friday
  | 5 => saturday
  | _ => sunday

/-- English name, in lower case. -/
def name : Weekday → String
  | monday => "monday"
  | tuesday => "tuesday"
  | wednesday => "wednesday"
  | thursday => "thursday"
  | friday => "friday"
  | saturday => "saturday"
  | sunday => "sunday"

/-- The first three letters of the name, capitalized. -/
def shortName : Weekday → String
  | monday => "Mon"
  | tuesday => "Tue"
  | wednesday => "Wed"
  | thursday => "Thu"
  | friday => "Fri"
  | saturday => "Sat"
  | sunday => "Sun"

/-- The weekday that a text names, in full or by its first three letters,
    whatever the case of its ASCII letters. -/
def ofName? (text : String) : Option Weekday :=
  let folded := text.toList.map Char.toLower
  all.find? fun day => folded = day.name.toList ∨ folded = day.name.toList.take 3

/-- Days to go back from `day` to the last `start`, between 0 and 6. -/
def daysSince (day start : Weekday) : Nat := (day.index + 7 - start.index) % 7

theorem index_lt (day : Weekday) : day.index < 7 := by cases day <;> decide

theorem ofIndex_index (day : Weekday) : ofIndex day.index = day := by cases day <;> rfl

theorem daysSince_lt (day start : Weekday) : daysSince day start < 7 := Nat.mod_lt _ (by decide)

end Weekday

end BucketPlan
