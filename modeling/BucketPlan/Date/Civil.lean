/-!
The proleptic Gregorian calendar with a year zero. Days are counted from
1970-01-01, so a civil date and its day number determine each other; the count
of a year's first day is a closed formula, and the way back starts from an
estimate that is off by at most one year.
-/

namespace BucketPlan

/-- Years whose February has a twenty-ninth day. -/
def LeapYear (y : Int) : Prop := y % 4 = 0 ∧ (y % 100 ≠ 0 ∨ y % 400 = 0)

instance (y : Int) : Decidable (LeapYear y) := inferInstanceAs (Decidable (_ ∧ _))

/-- Length of month `m` (1 is January) in year `y`. -/
def daysInMonth (y : Int) (m : Nat) : Nat :=
  match m with
  | 2 => if LeapYear y then 29 else 28
  | 4 | 6 | 9 | 11 => 30
  | _ => 31

/-- Days of year `y` before the first day of month `m`. -/
def daysBeforeMonth (y : Int) : Nat → Nat
  | 0 | 1 => 0
  | m + 2 => daysBeforeMonth y (m + 1) + daysInMonth y (m + 1)

/-- Day number of January 1 of year `y`; the divisions round down, so each
    counts the leap days since the year zero. -/
def firstDayOfYear (y : Int) : Int :=
  365 * y + (y + 3) / 4 - (y + 99) / 100 + (y + 399) / 400 - 719528

/-- A year, a month and a day of the month. -/
structure Civil where
  year : Int
  month : Nat
  day : Nat
deriving DecidableEq, Repr

namespace Civil

/-- The months and days that the calendar has. -/
def Valid (c : Civil) : Prop :=
  1 ≤ c.month ∧ c.month ≤ 12 ∧ 1 ≤ c.day ∧ c.day ≤ daysInMonth c.year c.month

instance (c : Civil) : Decidable c.Valid := inferInstanceAs (Decidable (_ ∧ _))

/-- Days from 1970-01-01 to this date. -/
def dayNumber (c : Civil) : Int :=
  firstDayOfYear c.year + daysBeforeMonth c.year c.month + c.day - 1

/-- Months from January of the year zero to the month of this date. -/
def monthIndex (c : Civil) : Int := 12 * c.year + c.month - 1

/-- The date in the month with index `i` that keeps `day`, or the last day of
    that month when it is shorter. -/
def ofMonthIndex (i : Int) (day : Nat) : Civil :=
  let year := i / 12
  let month := (i % 12).toNat + 1
  ⟨year, month, min day (daysInMonth year month)⟩

end Civil

/-! ## From a day number back to its civil date -/

/-- The year of day `n`: the mean length of a year gives an estimate, which the
    first days of the neighbouring years correct. -/
def yearOfDay (n : Int) : Int :=
  let guess := 400 * (n + 719528) / 146097
  if n < firstDayOfYear guess then guess - 1
  else if firstDayOfYear (guess + 1) ≤ n then guess + 1
  else guess

/-- Walks at most `more` months on from month `m`, with `rest` days left to go;
    gives the month reached and the day in it. -/
def monthFrom (y : Int) (m rest : Nat) : Nat → Nat × Nat
  | 0 => (m, rest + 1)
  | more + 1 =>
    if rest < daysInMonth y m then (m, rest + 1)
    else monthFrom y (m + 1) (rest - daysInMonth y m) more

/-- The civil date of day `n`. -/
def Civil.ofDay (n : Int) : Civil :=
  let year := yearOfDay n
  let md := monthFrom year 1 (n - firstDayOfYear year).toNat 11
  ⟨year, md.1, md.2⟩

theorem firstDayOfYear_succ (y : Int) :
    firstDayOfYear (y + 1) = firstDayOfYear y + (if LeapYear y then 366 else 365) := by
  unfold firstDayOfYear
  by_cases leap : LeapYear y
  · rw [if_pos leap]; unfold LeapYear at leap; omega
  · rw [if_neg leap]; unfold LeapYear at leap; omega

/-- A day lies in the year found for it. -/
theorem yearOfDay_spec (n : Int) :
    firstDayOfYear (yearOfDay n) ≤ n ∧ n < firstDayOfYear (yearOfDay n + 1) := by
  unfold yearOfDay
  simp only
  generalize hg : 400 * (n + 719528) / 146097 = g
  have near : 146097 * g ≤ 400 * (n + 719528) ∧ 400 * (n + 719528) < 146097 * g + 146097 := by omega
  split
  · rw [Int.sub_add_cancel]; unfold firstDayOfYear at *; omega
  · split
    · unfold firstDayOfYear at *; omega
    · omega

end BucketPlan
