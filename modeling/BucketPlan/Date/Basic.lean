import BucketPlan.Date.Civil
import BucketPlan.Date.Weekday

namespace BucketPlan

/-- Day number of -262143-01-01. -/
def firstDay : Int := -96465292

/-- Day number of 262142-12-31. -/
def lastDay : Int := 95026236

theorem firstDay_eq : firstDay = (Civil.mk (-262143) 1 1).dayNumber := by decide

theorem lastDay_eq : lastDay = (Civil.mk 262142 12 31).dayNumber := by decide

/-- A day of the representable years. -/
@[ext] structure Date where
  /-- Days since 1970-01-01. -/
  day : Int
  first_le : firstDay ≤ day
  le_last : day ≤ lastDay
deriving DecidableEq

namespace Date

/-- The date with a day number. -/
def ofDay? (n : Int) : Option Date :=
  if h : firstDay ≤ n ∧ n ≤ lastDay then some ⟨n, h.1, h.2⟩ else none

/-- The date that a year, a month and a day name, when there is one. -/
def ofCivil? (c : Civil) : Option Date := if c.Valid then ofDay? c.dayNumber else none

/-- Year, month and day of the month. -/
def civil (d : Date) : Civil := Civil.ofDay d.day

/-- Day 0 was a Thursday. -/
def weekday (d : Date) : Weekday := Weekday.ofIndex ((d.day + 3) % 7).toNat

def addDays? (d : Date) (n : Int) : Option Date := ofDay? (d.day + n)

/-- The same day of the month `months` later, or the last day of that month when
    it is shorter. -/
def shiftMonths? (d : Date) (months : Int) : Option Date :=
  ofDay? (Civil.ofMonthIndex (d.civil.monthIndex + months) d.civil.day).dayNumber

/-- The first day of the month; the representable dates begin with one, so it
    always exists. -/
def firstOfMonth (d : Date) : Date := (d.addDays? (1 - d.civil.day)).getD d

/-- The latest day, at or before `d`, on which a week starts; `d` itself in the
    first days of all, where that day is not representable. -/
def firstOfWeek (d : Date) (weekStart : Weekday) : Date :=
  (d.addDays? (-(d.weekday.daysSince weekStart))).getD d

theorem day_injective {a b : Date} (h : a.day = b.day) : a = b := Date.ext h

theorem ofDay?_eq_some_iff {n : Int} {d : Date} : ofDay? n = some d ↔ d.day = n := by
  unfold ofDay?
  constructor
  · intro h
    split at h
    · cases h; rfl
    · cases h
  · rintro rfl
    rw [dif_pos ⟨d.first_le, d.le_last⟩]

theorem ofDay?_day (d : Date) : ofDay? d.day = some d := ofDay?_eq_some_iff.2 rfl

theorem ofDay?_eq_none_iff {n : Int} : ofDay? n = none ↔ n < firstDay ∨ lastDay < n := by
  unfold ofDay?
  split <;> simp <;> omega

end Date

end BucketPlan
