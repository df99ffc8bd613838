import BucketPlan.Date.Civil

namespace BucketPlan

theorem daysInMonth_bounds (y : Int) (m : Nat) : 28 ≤ daysInMonth y m ∧ daysInMonth y m ≤ 31 := by
  unfold daysInMonth
  split
  · split <;> omega
  · omega
  · omega
  · omega
  · omega
  · omega

theorem daysBeforeMonth_succ {y : Int} {m : Nat} (positive : 0 < m) :
    daysBeforeMonth y (m + 1) = daysBeforeMonth y m + daysInMonth y m := by
  obtain ⟨k, rfl⟩ : ∃ k, m = k + 1 := ⟨m - 1, by omega⟩
  rw [daysBeforeMonth]

theorem firstDayOfYear_add_daysBeforeMonth (y : Int) :
    firstDayOfYear y + daysBeforeMonth y 13 = firstDayOfYear (y + 1) := by
  rw [firstDayOfYear_succ]
  by_cases leap : LeapYear y
  · simp [daysBeforeMonth, daysInMonth, leap]
  · simp [daysBeforeMonth, daysInMonth, leap]

/-! ## First days of months -/

/-- The day number of the first day of the month with index `i`. -/
def monthStart (i : Int) : Int := firstDayOfYear (i / 12) + daysBeforeMonth (i / 12) ((i % 12).toNat + 1)

/-- The number of days of the month with index `i`. -/
def monthLength (i : Int) : Nat := daysInMonth (i / 12) ((i % 12).toNat + 1)

theorem monthLength_bounds (i : Int) : 28 ≤ monthLength i ∧ monthLength i ≤ 31 := daysInMonth_bounds _ _

theorem monthStart_succ (i : Int) : monthStart (i + 1) = monthStart i + monthLength i := by
  have step := daysBeforeMonth_succ (y := i / 12) (m := (i % 12).toNat + 1) (by omega)
  unfold monthStart monthLength
  by_cases december : i % 12 = 11
  · have year : (i + 1) / 12 = i / 12 + 1 := by omega
    have month : ((i + 1) % 12).toNat + 1 = 1 := by omega
    have whole := firstDayOfYear_add_daysBeforeMonth (i / 12)
    rw [december] at step ⊢
    rw [year, month, ← whole]
    simp only [daysBeforeMonth, Int.reduceToNat, Nat.reduceAdd] at step ⊢
    omega
  · have year : (i + 1) / 12 = i / 12 := by omega
    have month : ((i + 1) % 12).toNat + 1 = (i % 12).toNat + 1 + 1 := by omega
    rw [year, month, step]
    omega

theorem monthStart_add (i : Int) (n : Nat) : monthStart i + 28 * n ≤ monthStart (i + n) := by
  induction n with
  | zero => simp
  | succ n ih =>
    have next := monthStart_succ (i + n)
    have long := (monthLength_bounds (i + n)).1
    rw [show i + (n + 1 : Nat) = i + n + 1 by omega]
    omega

theorem monthStart_lt {i j : Int} (less : i < j) : monthStart i < monthStart j := by
  have far := monthStart_add i (j - i).toNat
  rw [show i + (j - i).toNat = j by omega] at far
  omega

theorem monthStart_le {i j : Int} (le : i ≤ j) : monthStart i ≤ monthStart j := by
  rcases Int.lt_or_eq_of_le le with less | rfl
  · exact Int.le_of_lt (monthStart_lt less)
  · exact Int.le_refl _

/-! ## The month and the day of a day number -/

theorem monthFrom_spec (y : Int) (more m rest : Nat) (positive : 0 < m)
    (fits : daysBeforeMonth y m + rest < daysBeforeMonth y (m + more + 1)) :
    m ≤ (monthFrom y m rest more).1 ∧ (monthFrom y m rest more).1 ≤ m + more ∧
      1 ≤ (monthFrom y m rest more).2 ∧
      (monthFrom y m rest more).2 ≤ daysInMonth y (monthFrom y m rest more).1 ∧
      daysBeforeMonth y (monthFrom y m rest more).1 + (monthFrom y m rest more).2 =
        daysBeforeMonth y m + rest + 1 := by
  have step := daysBeforeMonth_succ (y := y) positive
  induction more generalizing m rest with
  | zero =>
    rw [monthFrom]
    simp only [Nat.add_zero] at fits
    exact ⟨Nat.le_refl _, by simp, by simp, by simp only; omega, by simp only; omega⟩
  | succ more ih =>
    rw [monthFrom]
    by_cases here : rest < daysInMonth y m
    · rw [if_pos here]
      exact ⟨Nat.le_refl _, by simp, by simp, by simp only; omega, by simp only; omega⟩
    · rw [if_neg here]
      obtain ⟨low, high, day, length, total⟩ :=
        ih (m + 1) (rest - daysInMonth y m) (by omega)
          (by rw [show m + 1 + more + 1 = m + (more + 1) + 1 by omega]; omega)
          (daysBeforeMonth_succ (by omega))
      exact ⟨by omega, by omega, day, length, by omega⟩

namespace Civil

theorem dayNumber_eq (c : Civil) (year : 1 ≤ c.month ∧ c.month ≤ 12) :
    c.dayNumber = monthStart c.monthIndex + c.day - 1 := by
  unfold dayNumber monthStart monthIndex
  rw [show (12 * c.year + c.month - 1) / 12 = c.year by omega,
    show ((12 * c.year + (c.month : Int) - 1) % 12).toNat + 1 = c.month by omega]

theorem ofDay_correct (n : Int) : (ofDay n).Valid ∧ (ofDay n).dayNumber = n := by
  obtain ⟨low, high⟩ := yearOfDay_spec n
  have year := firstDayOfYear_add_daysBeforeMonth (yearOfDay n)
  have first : daysBeforeMonth (yearOfDay n) 1 = 0 := rfl
  obtain ⟨fromOne, toTwelve, day, length, total⟩ :=
    monthFrom_spec (yearOfDay n) 11 1 (n - firstDayOfYear (yearOfDay n)).toNat (by omega)
      (by simp only [Nat.reduceAdd]; omega)
  refine ⟨⟨fromOne, toTwelve, day, length⟩, ?_⟩
  simp only [ofDay, dayNumber]
  omega

theorem ofDay_valid (n : Int) : (ofDay n).Valid := (ofDay_correct n).1

theorem dayNumber_ofDay (n : Int) : (ofDay n).dayNumber = n := (ofDay_correct n).2

/-- A day lies `day - 1` days into its month. -/
theorem monthStart_ofDay (n : Int) : monthStart (ofDay n).monthIndex = n + 1 - (ofDay n).day := by
  have valid := ofDay_valid n
  have number := dayNumber_eq (ofDay n) ⟨valid.1, valid.2.1⟩
  rw [dayNumber_ofDay] at number
  omega

theorem monthLength_monthIndex (n : Int) :
    monthLength (ofDay n).monthIndex = daysInMonth (ofDay n).year (ofDay n).month := by
  obtain ⟨low, high, _⟩ := ofDay_valid n
  unfold monthLength monthIndex
  rw [show (12 * (ofDay n).year + (ofDay n).month - 1) / 12 = (ofDay n).year by omega,
    show ((12 * (ofDay n).year + ((ofDay n).month : Int) - 1) % 12).toNat + 1 = (ofDay n).month by omega]

theorem day_le_monthLength (n : Int) : (ofDay n).day ≤ monthLength (ofDay n).monthIndex := by
  rw [monthLength_monthIndex]
  exact (ofDay_valid n).2.2.2

/-- A month is not over before its first day, nor before the first day of any earlier
    one. -/
theorem monthStart_le_iff {i n : Int} : monthStart i ≤ n ↔ i ≤ (ofDay n).monthIndex := by
  have start := monthStart_ofDay n
  have day := (ofDay_valid n).2.2.1
  have length := day_le_monthLength n
  have next := monthStart_succ (ofDay n).monthIndex
  constructor
  · intro le
    rcases Int.lt_or_le (ofDay n).monthIndex i with after | within
    · have far := monthStart_le (i := (ofDay n).monthIndex + 1) (j := i) after
      omega
    · exact within
  · intro le
    have near := monthStart_le le
    omega

/-- Days are in order as their months are, and in one month as their days of the month are. -/
theorem ofDay_lt_iff {m n : Int} :
    m < n ↔ (ofDay m).monthIndex < (ofDay n).monthIndex ∨
      ((ofDay m).monthIndex = (ofDay n).monthIndex ∧ (ofDay m).day < (ofDay n).day) := by
  have startM := monthStart_ofDay m
  have startN := monthStart_ofDay n
  have dayM := (ofDay_valid m).2.2.1
  have dayN := (ofDay_valid n).2.2.1
  have reachesM := monthStart_le_iff (i := (ofDay n).monthIndex) (n := m)
  have reachesN := monthStart_le_iff (i := (ofDay m).monthIndex) (n := n)
  rcases Int.lt_trichotomy (ofDay m).monthIndex (ofDay n).monthIndex with earlier | same | later
  · omega
  · rw [same] at startM
    omega
  · omega

theorem monthIndex_monthStart (i : Int) : (ofDay (monthStart i)).monthIndex = i := by
  have low := monthStart_le_iff.1 (Int.le_refl (monthStart i))
  have high : ¬ monthStart (i + 1) ≤ monthStart i := Int.not_le.2 (monthStart_lt (by omega))
  rw [monthStart_le_iff] at high
  omega

/-- The days from the first day of a month on are its days, as far as it is long. -/
theorem ofDay_monthStart_add {i : Int} {k : Nat} (within : k < monthLength i) :
    ofDay (monthStart i + k) = ⟨i / 12, (i % 12).toNat + 1, k + 1⟩ := by
  obtain ⟨fromOne, toTwelve, _⟩ := ofDay_valid (monthStart i + k)
  have start := monthStart_ofDay (monthStart i + k)
  have low := monthStart_le_iff (i := i) (n := monthStart i + k)
  have high := monthStart_le_iff (i := i + 1) (n := monthStart i + k)
  rw [monthStart_succ] at high
  have index : (ofDay (monthStart i + k)).monthIndex = i := by omega
  rw [index] at start
  unfold monthIndex at index
  cases found : ofDay (monthStart i + k) with
  | mk year month day =>
    rw [found] at fromOne toTwelve start index
    simp only at fromOne toTwelve start index
    simp only [Civil.mk.injEq]
    omega

theorem monthIndex_apart {m n : Int} (le : m ≤ n) : 28 * ((ofDay n).monthIndex - (ofDay m).monthIndex - 1) ≤ n - m := by
  have reached := monthStart_le_iff.2 (Int.le_refl (ofDay n).monthIndex)
  have before : ¬ monthStart ((ofDay m).monthIndex + 1) ≤ m := by
    rw [monthStart_le_iff]
    omega
  rcases Int.lt_or_le ((ofDay m).monthIndex + 1) (ofDay n).monthIndex with less | near
  · have far := monthStart_add ((ofDay m).monthIndex + 1) ((ofDay n).monthIndex - ((ofDay m).monthIndex + 1)).toNat
    rw [show (ofDay m).monthIndex + 1 + ((ofDay n).monthIndex - ((ofDay m).monthIndex + 1)).toNat =
      (ofDay n).monthIndex by omega] at far
    omega
  · omega

/-- A day of the month with an index, or its last day. -/
theorem dayNumber_ofMonthIndex (i : Int) (day : Nat) :
    (ofMonthIndex i day).dayNumber = monthStart i + min day (monthLength i) - 1 := by
  unfold ofMonthIndex dayNumber monthStart monthLength
  simp only

end Civil

end BucketPlan
