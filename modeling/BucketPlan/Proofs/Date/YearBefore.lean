import BucketPlan.Proofs.Date.MonthShift
import Mathlib.Tactic.SplitIfs

/-!
Twelve months back are 366 days when a 29 February is passed, or when 29 February
itself goes back to the 28th; otherwise they are 365 (`yearShift`). So how far a date
moves depends on whether it lies between a 29 February and the next 28 February
(`Date.shiftMonths?_year`), and a local time moves with its date (`Moment.shiftMonths?_year`).
-/

namespace BucketPlan

/-! ## Leap days in the months of a year -/

/-- The number of leap days in a year. -/
def leapDays (y : Int) : Nat := if LeapYear y then 1 else 0

theorem leapDays_eq_one_iff {y : Int} : leapDays y = 1 ↔ LeapYear y := by
  unfold leapDays
  split <;> simp [*]

theorem leapDays_add (y : Int) : leapDays (y - 1) + leapDays y ≤ 1 := by
  have apart : LeapYear (y - 1) → ¬ LeapYear y := by
    unfold LeapYear
    omega
  unfold leapDays
  by_cases before : LeapYear (y - 1)
  · simp only [before, apart before, if_true, if_false, Nat.add_zero, Nat.le_refl]
  · rw [if_neg before]
    split <;> omega

theorem firstDayOfYear_pred (y : Int) : firstDayOfYear y = firstDayOfYear (y - 1) + 365 + leapDays (y - 1) := by
  have next := firstDayOfYear_succ (y - 1)
  rw [Int.sub_add_cancel] at next
  rw [next, leapDays]
  split <;> omega

theorem daysInMonth_two (y : Int) : daysInMonth y 2 = 28 + leapDays y := by
  simp only [daysInMonth, leapDays]
  split <;> rfl

theorem daysInMonth_of_ne {m : Nat} (notFebruary : m ≠ 2) (y z : Int) : daysInMonth y m = daysInMonth z m := by
  unfold daysInMonth
  split
  · exact absurd rfl notFebruary
  · rfl
  · rfl
  · rfl
  · rfl
  · rfl

theorem exists_daysBeforeMonth {m : Nat} (march : 3 ≤ m) :
    ∃ common, 59 ≤ common ∧ ∀ y, daysBeforeMonth y m = common + leapDays y := by
  obtain ⟨k, rfl⟩ : ∃ k, m = k + 3 := ⟨m - 3, by omega⟩
  clear march
  induction k with
  | zero =>
    refine ⟨59, Nat.le_refl 59, fun y => ?_⟩
    have january : daysBeforeMonth y 2 = 31 := rfl
    rw [daysBeforeMonth_succ (by decide), daysInMonth_two, january]
    omega
  | succ k ih =>
    obtain ⟨common, long, days⟩ := ih
    refine ⟨common + daysInMonth 1 (k + 3), by omega, fun y => ?_⟩
    rw [show k + 1 + 3 = k + 3 + 1 from rfl, daysBeforeMonth_succ (by omega), days,
      daysInMonth_of_ne (by omega) y 1]
    omega

/-! ## Days that follow a leap day -/

/-- The day lies between a 29 February and the next 28 February. -/
def FollowsLeapDay (n : Int) : Prop :=
  ∃ y, LeapYear y ∧ (Civil.mk y 2 29).dayNumber ≤ n ∧ n ≤ (Civil.mk (y + 1) 2 28).dayNumber

theorem followsLeapDay_iff {n : Int} :
    FollowsLeapDay n ↔ (leapDays (yearOfDay n) = 1 ∧ firstDayOfYear (yearOfDay n) + 59 ≤ n) ∨
      (leapDays (yearOfDay n - 1) = 1 ∧ n ≤ firstDayOfYear (yearOfDay n) + 58) := by
  obtain ⟨low, high⟩ := yearOfDay_spec n
  generalize yearOfDay n = year at *
  have february : ∀ y, daysBeforeMonth y 2 = 31 := fun _ => rfl
  simp only [FollowsLeapDay, Civil.dayNumber, february, leapDays_eq_one_iff]
  constructor
  · rintro ⟨y, leap, after, before⟩
    have later : year = y ∨ year = y + 1 := by
      unfold firstDayOfYear at low high after before
      omega
    rcases later with rfl | rfl
    · exact .inl ⟨leap, by omega⟩
    · exact .inr ⟨by rwa [Int.add_sub_cancel], by omega⟩
  · rintro (⟨leap, after⟩ | ⟨leap, before⟩)
    · have next := firstDayOfYear_succ year
      exact ⟨year, leap, by omega, by omega⟩
    · have same := firstDayOfYear_pred year
      exact ⟨year - 1, leap, by omega, by rw [Int.sub_add_cancel]; omega⟩

instance (n : Int) : Decidable (FollowsLeapDay n) := decidable_of_iff _ followsLeapDay_iff.symm

/-- The number of days from the same date a year before to a day. -/
def yearShift (n : Int) : Int := if FollowsLeapDay n then 366 else 365

theorem yearShift_eq (n : Int) : yearShift n = 365 ∨ yearShift n = 366 := by
  unfold yearShift
  split
  · exact .inr rfl
  · exact .inl rfl

/-! ## Twelve months back -/

namespace Civil

theorem dayNumber_ofMonthIndex_year (n : Int) :
    (ofMonthIndex ((ofDay n).monthIndex + -12) (ofDay n).day).dayNumber = n - yearShift n := by
  obtain ⟨fromOne, toTwelve, first, length⟩ := ofDay_valid n
  have number := dayNumber_ofDay n
  have sameYear : (ofDay n).year = yearOfDay n := rfl
  -- The month a year before is the same month of the year before.
  have index : ((ofDay n).monthIndex + -12) / 12 = yearOfDay n - 1 := by
    unfold monthIndex
    omega
  have month : (((ofDay n).monthIndex + -12) % 12).toNat + 1 = (ofDay n).month := by
    unfold monthIndex
    omega
  have year := firstDayOfYear_pred (yearOfDay n)
  have apart := leapDays_add (yearOfDay n)
  unfold dayNumber at number
  unfold ofMonthIndex dayNumber yearShift
  rw [sameYear] at number length
  simp only [index, month, followsLeapDay_iff]
  generalize (ofDay n).month = m at *
  generalize (ofDay n).day = d at *
  obtain rfl | rfl | march : m = 1 ∨ m = 2 ∨ 3 ≤ m := by omega
  · simp only [daysBeforeMonth, daysInMonth] at *
    split_ifs <;> omega
  · rw [daysInMonth_two] at *
    simp only [daysBeforeMonth, daysInMonth] at *
    split_ifs <;> omega
  · obtain ⟨common, long, days⟩ := exists_daysBeforeMonth march
    rw [days] at *
    rw [daysInMonth_of_ne (by omega) (yearOfDay n - 1) (yearOfDay n)]
    split_ifs <;> omega

end Civil

theorem monthStart_year (i : Int) : monthStart (i - 12) = monthStart i - yearShift (monthStart i) := by
  have number := Civil.dayNumber_ofMonthIndex_year (monthStart i)
  have first := Civil.monthStart_ofDay (monthStart i)
  have long := (monthLength_bounds (i + -12)).1
  rw [Civil.monthIndex_monthStart] at number first
  rw [Civil.dayNumber_ofMonthIndex] at number
  rw [show i - 12 = i + -12 from rfl]
  omega

/-- Twelve months before a date is the date that many days before. -/
theorem Date.shiftMonths?_year {d n : Date} : d.shiftMonths? (-12) = some n ↔ n.day = d.day - yearShift d.day := by
  rw [shiftMonths?, ofDay?_eq_some_iff, civil, Civil.dayNumber_ofMonthIndex_year]

theorem Moment.moveMonths?_year (l : WallTime) : l.moveMonths? (-12) = l.shiftMonths? (-12) :=
  moveMonths?_of_natAbs_le l (by decide)

/-- Twelve months before a local time is the time of day on the date that many days before. -/
theorem Moment.shiftMonths?_year {l m : WallTime} :
    l.shiftMonths? (-12) = some m ↔
      m.seconds = l.seconds - 86400 * yearShift (l.seconds / 86400) ∧ m.nanos = l.nanos := by
  rw [shiftMonths?_eq_some_iff, Date.shiftMonths?_year, ← and_assoc]
  simp only [date, secondOfDay]
  exact and_congr_left fun _ => by omega

end BucketPlan
