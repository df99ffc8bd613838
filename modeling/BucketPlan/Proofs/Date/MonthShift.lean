import BucketPlan.Proofs.Calendar.Leading
import BucketPlan.Proofs.Moment.Line

/-!
Months are counted without a gap over the representable years, so a move by months is an
addition of month indices. The date it leads to is the one with that month index and with
the same day, or the last day of a shorter month (`Date.shiftMonths?_iff_civil`), and it
exists when the month lies in the representable years (`Date.exists_shiftMonths?_iff`).
Moves keep dates in their order and undo each other where the day was not cut
(`Moment.monthShift_exact`).
-/

namespace BucketPlan

/-- The month with index `i` lies in the representable years. -/
def RepresentableMonth (i : Int) : Prop := -262143 ≤ i / 12 ∧ i / 12 ≤ 262142

instance (i : Int) : Decidable (RepresentableMonth i) := inferInstanceAs (Decidable (_ ∧ _))

theorem lastDay_eq_monthStart : lastDay + 1 = monthStart (12 * 262143) := by decide

theorem representable_iff {i : Int} {k : Nat} (within : k < monthLength i) :
    (firstDay ≤ monthStart i + k ∧ monthStart i + k ≤ lastDay) ↔ RepresentableMonth i := by
  have next := monthStart_succ i
  have first := firstDay_eq_monthStart
  have last := lastDay_eq_monthStart
  unfold RepresentableMonth
  constructor
  · rintro ⟨low, high⟩
    -- Months out of the years end before the first day, or begin after the last.
    have early : ¬ i + 1 ≤ 12 * -262143 := by
      intro before
      have ended := monthStart_le before
      omega
    have late : ¬ 12 * 262143 ≤ i := by
      intro after
      have begun := monthStart_le after
      omega
    omega
  · rintro ⟨low, high⟩
    have since := monthStart_le (i := 12 * -262143) (j := i) (by omega)
    have before := monthStart_le (i := i + 1) (j := 12 * 262143) (by omega)
    omega

/-! ## Dates of a month -/

namespace Civil

theorem monthIndex_ofMonthIndex (i : Int) (day : Nat) : (ofMonthIndex i day).monthIndex = i := by
  simp only [ofMonthIndex, monthIndex]
  omega

theorem eq_ofMonthIndex_iff {c : Civil} (valid : c.Valid) {i : Int} {day : Nat} :
    c = ofMonthIndex i day ↔ c.monthIndex = i ∧ c.day = min day (daysInMonth c.year c.month) := by
  constructor
  · rintro rfl
    exact ⟨monthIndex_ofMonthIndex i day, rfl⟩
  · rintro ⟨rfl, onDay⟩
    obtain ⟨low, high, _⟩ := valid
    have year : (12 * c.year + c.month - 1) / 12 = c.year := by omega
    have month : ((12 * c.year + (c.month : Int) - 1) % 12).toNat + 1 = c.month := by omega
    simp only [ofMonthIndex, monthIndex, year, month, ← onDay]

theorem ofDay_ofMonthIndex (i : Int) {day : Nat} (first : 1 ≤ day) :
    ofDay (ofMonthIndex i day).dayNumber = ofMonthIndex i day := by
  have long := (monthLength_bounds i).1
  have number : (ofMonthIndex i day).dayNumber = monthStart i + (min day (monthLength i) - 1 : Nat) := by
    rw [dayNumber_ofMonthIndex]
    omega
  have place : min day (monthLength i) - 1 + 1 = min day (monthLength i) := by omega
  rw [number, ofDay_monthStart_add (by omega), place]
  rfl

end Civil

/-! ## Moving dates -/

namespace Date

variable {d e n o : Date} {m : Int}

theorem civil_valid (d : Date) : d.civil.Valid := Civil.ofDay_valid d.day

/-- A move leads to the date in the month so many later, on the same day as far as the month
    is long. -/
theorem shiftMonths?_iff_civil :
    d.shiftMonths? m = some n ↔ n.civil = Civil.ofMonthIndex (d.civil.monthIndex + m) d.civil.day := by
  have found := Civil.ofDay_ofMonthIndex (d.civil.monthIndex + m) d.civil_valid.2.2.1
  rw [shiftMonths?, ofDay?_eq_some_iff]
  constructor
  · intro day
    rw [← found, ← day]
    rfl
  · intro same
    rw [← same, civil, Civil.dayNumber_ofDay]

/-- A move has an answer just when it leads to a month of the representable years. -/
theorem exists_shiftMonths?_iff :
    (∃ n, d.shiftMonths? m = some n) ↔ RepresentableMonth (d.civil.monthIndex + m) := by
  have first := d.civil_valid.2.2.1
  have long := (monthLength_bounds (d.civil.monthIndex + m)).1
  rw [← representable_iff (k := min d.civil.day (monthLength (d.civil.monthIndex + m)) - 1) (by omega)]
  simp only [shiftMonths?_eq_some_iff]
  constructor
  · rintro ⟨n, day⟩
    have low := n.first_le
    have high := n.le_last
    omega
  · rintro ⟨low, high⟩
    exact ⟨⟨_, low, high⟩, by simp only; omega⟩

theorem shiftMonths?_mono (le : d.day ≤ e.day) (moved : d.shiftMonths? m = some n)
    (movedE : e.shiftMonths? m = some o) : n.day ≤ o.day := by
  rw [shiftMonths?_eq_some_iff] at moved movedE
  have first := e.civil_valid.2.2.1
  have long := (monthLength_bounds (e.civil.monthIndex + m)).1
  have order := Civil.ofDay_lt_iff (m := e.day) (n := d.day)
  rw [← civil, ← civil] at order
  rcases Int.lt_trichotomy d.civil.monthIndex e.civil.monthIndex with earlier | same | later
  · -- The first month is over before the second begins.
    have ended := monthStart_le (i := d.civil.monthIndex + m + 1) (j := e.civil.monthIndex + m) (by omega)
    rw [monthStart_succ] at ended
    omega
  · rw [same] at moved
    omega
  · omega

theorem shiftMonths?_neg_iff (moved : d.shiftMonths? m = some n) :
    n.shiftMonths? (-m) = some d ↔ d.civil.day ≤ monthLength (d.civil.monthIndex + m) := by
  have length := d.civil_valid.2.2.2
  rw [shiftMonths?_iff_civil] at moved ⊢
  have index : n.civil.monthIndex = d.civil.monthIndex + m := by rw [moved, Civil.monthIndex_ofMonthIndex]
  have day : n.civil.day = min d.civil.day (monthLength (d.civil.monthIndex + m)) := congrArg Civil.day moved
  rw [Civil.eq_ofMonthIndex_iff d.civil_valid, index, day]
  omega

theorem representableMonth (d : Date) : RepresentableMonth d.civil.monthIndex := by
  have start : monthStart d.civil.monthIndex = d.day + 1 - d.civil.day := Civil.monthStart_ofDay d.day
  have first : 1 ≤ d.civil.day := d.civil_valid.2.2.1
  have length : d.civil.day ≤ monthLength d.civil.monthIndex := Civil.day_le_monthLength d.day
  have low := d.first_le
  have high := d.le_last
  exact (representable_iff (k := d.civil.day - 1) (by omega)).1 (by omega)

end Date

/-! ## Moving local times -/

namespace Moment

variable {l k n o : WallTime} {m : Int}

/-- `n` is the local time that many months after `l`: in the month so many later, on the same
    day or on the last day of a shorter month, at the same time of day. -/
structure MonthsLater (l : WallTime) (months : Int) (n : WallTime) : Prop where
  month : n.date.civil.monthIndex = l.date.civil.monthIndex + months
  day : n.date.civil.day = min l.date.civil.day (daysInMonth n.date.civil.year n.date.civil.month)
  second : n.secondOfDay = l.secondOfDay
  nanos : n.nanos = l.nanos

/-- A local time moves with its date and keeps its time of day. -/
theorem shiftMonths?_eq_some_iff :
    l.shiftMonths? m = some n ↔
      l.date.shiftMonths? m = some n.date ∧ n.secondOfDay = l.secondOfDay ∧ n.nanos = l.nanos := by
  simp only [shiftMonths?, Option.bind_eq_bind, Option.bind_eq_some_iff, ofParts?_eq_some_iff]
  unfold secondOfDay
  constructor
  · rintro ⟨d, moved, seconds, nanos⟩
    have same : d = n.date := Date.day_injective (by simp only [date]; omega)
    exact ⟨same ▸ moved, by omega, nanos⟩
  · rintro ⟨moved, second, nanos⟩
    exact ⟨n.date, moved, by simp only [date]; omega, nanos⟩

theorem exists_shiftMonths? {d : Date} (moved : l.date.shiftMonths? m = some d) : ∃ n, l.shiftMonths? m = some n := by
  -- Dates begin with whole minutes, so a leap second stays one.
  have leap := l.leap
  have first := d.first_le
  have last := d.le_last
  have begins := firstSecond_eq
  have ends := lastSecond_eq
  let n : WallTime := ⟨d.day * 86400 + l.seconds % 86400, l.nanos, by omega, by omega, l.nanos_lt, by omega⟩
  have date : n.date = d := Date.day_injective (by simp only [date, n]; omega)
  have second : n.secondOfDay = l.secondOfDay := by
    simp only [secondOfDay, n]
    omega
  exact ⟨n, shiftMonths?_eq_some_iff.2 ⟨date ▸ moved, second, rfl⟩⟩

theorem exists_shiftMonths?_iff :
    (∃ n, l.shiftMonths? m = some n) ↔ RepresentableMonth (l.date.civil.monthIndex + m) := by
  rw [← Date.exists_shiftMonths?_iff]
  constructor
  · rintro ⟨n, moved⟩
    exact ⟨n.date, (shiftMonths?_eq_some_iff.1 moved).1⟩
  · rintro ⟨d, moved⟩
    exact exists_shiftMonths? moved

theorem shiftMonths?_iff_monthsLater : l.shiftMonths? m = some n ↔ l.MonthsLater m n := by
  rw [shiftMonths?_eq_some_iff, Date.shiftMonths?_iff_civil, Civil.eq_ofMonthIndex_iff n.date.civil_valid]
  constructor
  · rintro ⟨⟨month, day⟩, second, nanos⟩
    exact ⟨month, day, second, nanos⟩
  · rintro ⟨month, day, second, nanos⟩
    exact ⟨⟨month, day⟩, second, nanos⟩

theorem shiftMonths?_bounds (moved : l.shiftMonths? m = some n) : -2147483648 < m ∧ m < 2147483648 := by
  have before := l.date.representableMonth
  have after := exists_shiftMonths?_iff.1 ⟨n, moved⟩
  unfold RepresentableMonth at before after
  omega

theorem moveMonths?_eq (l : WallTime) (months : Int32) : l.moveMonths? months = l.shiftMonths? months.toInt := by
  have low := months.le_toInt
  have high := months.toInt_lt
  by_cases bound : months.toInt.natAbs ≤ 2147483647
  · exact moveMonths?_of_natAbs_le l bound
  · have least : months.toInt = -2147483648 := by omega
    have out : l.shiftMonths? (-2147483648) = none := by
      cases moved : l.shiftMonths? (-2147483648) with
      | none => rfl
      | some n => exact absurd (shiftMonths?_bounds moved).1 (by decide)
    have same : months = -2147483648 := Int32.toInt_inj.1 (by rw [least]; rfl)
    rw [least, out, same]
    rfl

theorem shiftMonths?_neg_iff (moved : l.shiftMonths? m = some n) :
    n.shiftMonths? (-m) = some l ↔ l.date.civil.day ≤ monthLength (l.date.civil.monthIndex + m) := by
  obtain ⟨movedDate, second, nanos⟩ := shiftMonths?_eq_some_iff.1 moved
  rw [← Date.shiftMonths?_neg_iff movedDate, shiftMonths?_eq_some_iff]
  exact ⟨fun back => back.1, fun back => ⟨back, second.symm, nanos.symm⟩⟩

/-- A move by months has an answer when it leads to a month of the representable years. The
    answer lies in that month, on the same day or on the last one of a shorter month, at the
    same time of day. The dates of moved local times are in the order of the local times. A
    number of months with an answer has 32 bits and so has its negative, by which the move back
    leads back unless the day was cut. All this holds of a number of 32 bits that is moved by sign
    and magnitude, the least such number included. -/
theorem monthShift_exact (l : WallTime) (m : Int) :
    ((∃ n, l.shiftMonths? m = some n) ↔ RepresentableMonth (l.date.civil.monthIndex + m)) ∧
      (∀ n, l.shiftMonths? m = some n ↔ l.MonthsLater m n) ∧
      (∀ k n o, l ≤ k → l.shiftMonths? m = some n → k.shiftMonths? m = some o → n.date.day ≤ o.date.day) ∧
      (∀ n, l.shiftMonths? m = some n → (-2147483648 < m ∧ m < 2147483648) ∧
        (n.shiftMonths? (-m) = some l ↔ l.date.civil.day ≤ monthLength (l.date.civil.monthIndex + m))) ∧
      ∀ months : Int32, l.moveMonths? months = l.shiftMonths? months.toInt := by
  refine ⟨exists_shiftMonths?_iff, fun n => shiftMonths?_iff_monthsLater, ?_, ?_, moveMonths?_eq l⟩
  · intro k n o le moved movedK
    have dates : l.date.day ≤ k.date.day := by
      have seconds := seconds_le le
      simp only [date]
      omega
    exact Date.shiftMonths?_mono dates (shiftMonths?_eq_some_iff.1 moved).1 (shiftMonths?_eq_some_iff.1 movedK).1
  · intro n moved
    exact ⟨shiftMonths?_bounds moved, shiftMonths?_neg_iff moved⟩

/-- Six in the evening of 30 March 2024. -/
def saturdayEvening : WallTime := (Moment.ofSeconds? 1711821600).get (by decide)

/-- Noon of 31 March 2024. -/
def sundayNoon : WallTime := (Moment.ofSeconds? 1711886400).get (by decide)

/-- A month before the last two days of March 2024 is 29 February for both, so the dates are in
    order and the times are not, and a month after it is 29 March. -/
theorem saturdayEvening_shifts :
    ∃ n o, saturdayEvening.shiftMonths? (-1) = some n ∧ saturdayEvening.MonthsLater (-1) n ∧
      n.date.civil = ⟨2024, 2, 29⟩ ∧ sundayNoon.shiftMonths? (-1) = some o ∧ n.date.day ≤ o.date.day ∧ o < n ∧
      n.shiftMonths? 1 ≠ some saturdayEvening ∧ (¬ ∃ f, saturdayEvening.shiftMonths? (-2147483648) = some f) ∧
      saturdayEvening.moveMonths? (-1) = some n ∧ saturdayEvening.moveMonths? (-2147483648) = none := by
  obtain ⟨_, later, ordered, back, moves⟩ := monthShift_exact saturdayEvening (-1)
  have least := (monthShift_exact saturdayEvening (-2147483648)).1
  have moved : saturdayEvening.shiftMonths? (-1) = some ((Moment.ofSeconds? 1709229600).get (by decide)) := by
    decide
  have movedNoon : sundayNoon.shiftMonths? (-1) = some ((Moment.ofSeconds? 1709208000).get (by decide)) := by
    decide
  have dates := ordered _ _ _ (by decide) moved movedNoon
  have cut : ¬ saturdayEvening.date.civil.day ≤ monthLength (saturdayEvening.date.civil.monthIndex + -1) := by
    decide
  have out : ¬ RepresentableMonth (saturdayEvening.date.civil.monthIndex + -2147483648) := by decide
  exact ⟨_, _, moved, (later _).1 moved, by decide, movedNoon, dates, by decide,
    fun again => cut ((back _ moved).2.1 again), fun found => out (least.1 found), (moves (-1)).trans moved, rfl⟩

end Moment

end BucketPlan
