import BucketPlan.Calendar
import BucketPlan.Proofs.Date.Months

/-!
Days, weeks and months each number their buckets by integers: bucket `i` leads
with day `leadDay i`, and day `n` lies in bucket `leadIndex n`. A bucket reaches
from its leading day up to that of the next one (`leadDay_le_iff`). The dates
that a calendar works with are these days, as long as they are representable
(`bucketDate_day_eq`, `nextDate?_eq_some_iff`).
-/

namespace BucketPlan

namespace Granularity

/-- The first day of the bucket with number `i`; weeks are counted from the one
    that begins in the last days of 1969. -/
def leadDay (g : Granularity) (weekStart : Weekday) (i : Int) : Int :=
  match g with
  | .week => 7 * i + weekStart.index - 3
  | .month => monthStart i
  | _ => i

/-- The number of the bucket that a day lies in. -/
def leadIndex (g : Granularity) (weekStart : Weekday) (n : Int) : Int :=
  match g with
  | .week => (n + 3 - weekStart.index) / 7
  | .month => (Civil.ofDay n).monthIndex
  | _ => n

/-- The day one bucket after a day: a day or a week later, or the first of the next
    month. -/
def followingDay (g : Granularity) (n : Int) : Int :=
  match g with
  | .week => n + 7
  | .month => monthStart ((Civil.ofDay n).monthIndex + 1)
  | _ => n + 1

theorem leadDay_le_iff {g : Granularity} {weekStart : Weekday} {i n : Int} :
    g.leadDay weekStart i ≤ n ↔ i ≤ g.leadIndex weekStart n := by
  cases g with
  | week => simp only [leadDay, leadIndex]; omega
  | month => exact Civil.monthStart_le_iff
  | minute | hour | day => exact Iff.rfl

theorem leadIndex_leadDay (g : Granularity) (weekStart : Weekday) (i : Int) :
    g.leadIndex weekStart (g.leadDay weekStart i) = i := by
  cases g with
  | week => simp only [leadDay, leadIndex]; omega
  | month => exact Civil.monthIndex_monthStart i
  | minute | hour | day => rfl

theorem leadDay_le_leadDay_iff {g : Granularity} {weekStart : Weekday} {i j : Int} :
    g.leadDay weekStart i ≤ g.leadDay weekStart j ↔ i ≤ j := by
  rw [leadDay_le_iff, leadIndex_leadDay]

/-- The number of days of the longest bucket. -/
def longestDays : Granularity → Int
  | week => 7
  | month => 31
  | _ => 1

theorem longestDays_le (g : Granularity) : g.longestDays ≤ 31 := by cases g <;> decide

/-- A bucket has a day at least, and as many as the longest one at most. -/
theorem leadDay_succ_bounds (g : Granularity) (weekStart : Weekday) (i : Int) :
    g.leadDay weekStart i + 1 ≤ g.leadDay weekStart (i + 1) ∧
      g.leadDay weekStart (i + 1) ≤ g.leadDay weekStart i + g.longestDays := by
  cases g with
  | week => simp only [leadDay, longestDays]; omega
  | month =>
    have next := monthStart_succ i
    have length := monthLength_bounds i
    simp only [leadDay, longestDays]
    omega
  | minute | hour | day => simp only [leadDay, longestDays]; omega

/-- A day lies in its bucket. -/
theorem leadDay_leadIndex (g : Granularity) (weekStart : Weekday) (n : Int) :
    g.leadDay weekStart (g.leadIndex weekStart n) ≤ n ∧
      n < g.leadDay weekStart (g.leadIndex weekStart n + 1) := by
  refine ⟨leadDay_le_iff.2 (Int.le_refl _), ?_⟩
  rw [← Int.not_le, leadDay_le_iff]
  omega

theorem leadIndex_succ (g : Granularity) (weekStart : Weekday) (n : Int) :
    g.leadDay weekStart (g.leadIndex weekStart (n + 1)) = n + 1 ∧
        g.leadIndex weekStart (n + 1) = g.leadIndex weekStart n + 1 ∨
      g.leadDay weekStart (g.leadIndex weekStart (n + 1)) ≤ n ∧
        g.leadIndex weekStart (n + 1) = g.leadIndex weekStart n := by
  have own := leadDay_leadIndex g weekStart n
  have following := leadDay_leadIndex g weekStart (n + 1)
  have some_day := (leadDay_succ_bounds g weekStart (g.leadIndex weekStart n + 1)).1
  have upward : ∀ i j : Int, g.leadDay weekStart i < g.leadDay weekStart j → i < j := by
    intro i j less
    rwa [← Int.not_le, leadDay_le_leadDay_iff, Int.not_le] at less
  have low := upward (g.leadIndex weekStart n) (g.leadIndex weekStart (n + 1) + 1) (by omega)
  have high := upward (g.leadIndex weekStart (n + 1)) (g.leadIndex weekStart n + 1 + 1) (by omega)
  rcases Int.lt_or_le n (g.leadDay weekStart (g.leadIndex weekStart (n + 1))) with leads | within
  · have later := upward (g.leadIndex weekStart n) (g.leadIndex weekStart (n + 1)) (by omega)
    omega
  · rw [leadDay_le_iff] at within
    have same : g.leadIndex weekStart (n + 1) = g.leadIndex weekStart n := by omega
    rw [same] at following ⊢
    omega

theorem followingDay_leadDay (g : Granularity) (weekStart : Weekday) (i : Int) :
    g.followingDay (g.leadDay weekStart i) = g.leadDay weekStart (i + 1) := by
  cases g with
  | week => simp only [leadDay, followingDay]; omega
  | month => simp only [leadDay, followingDay, Civil.monthIndex_monthStart]
  | minute | hour | day => rfl

/-- One bucket further is no further than the longest bucket is long. -/
theorem followingDay_bounds (g : Granularity) (n : Int) :
    n < g.followingDay n ∧ g.followingDay n ≤ n + g.longestDays := by
  cases g with
  | month =>
    obtain ⟨low, high⟩ := leadDay_leadIndex .month .monday n
    have length := (leadDay_succ_bounds .month .monday (Granularity.leadIndex .month .monday n)).2
    simp only [leadDay, leadIndex] at low high length
    simp only [followingDay]
    omega
  | minute | hour | day | week => simp only [followingDay, longestDays]; omega

theorem followingDay_le {g : Granularity} {m n : Int} (le : m ≤ n) : g.followingDay m ≤ g.followingDay n := by
  cases g with
  | month =>
    have index : (Civil.ofDay m).monthIndex ≤ (Civil.ofDay n).monthIndex := by
      rw [← Civil.monthStart_le_iff]
      exact Int.le_trans (Civil.monthStart_le_iff.2 (Int.le_refl _)) le
    exact monthStart_le (by omega)
  | minute | hour | day | week => simp only [followingDay]; omega

end Granularity

/-! ## Dates -/

theorem firstDay_eq_monthStart : firstDay = monthStart (12 * -262143) := by decide

namespace Weekday

theorem index_ofIndex {n : Nat} (small : n < 7) : (ofIndex n).index = n := by
  have all : ∀ k : Fin 7, (ofIndex k).index = k := by decide
  exact all ⟨n, small⟩

end Weekday

namespace Date

theorem ofDay?_inside {n : Int} (low : firstDay ≤ n) (high : n ≤ lastDay) :
    ∃ d, ofDay? n = some d ∧ d.day = n := ⟨⟨n, low, high⟩, ofDay?_eq_some_iff.2 rfl, rfl⟩

/-- Moving by months keeps the day of the month, as far as the month is long. -/
theorem shiftMonths?_eq_some_iff {d n : Date} {months : Int} :
    d.shiftMonths? months = some n ↔ n.day = monthStart (d.civil.monthIndex + months) +
      min d.civil.day (monthLength (d.civil.monthIndex + months)) - 1 := by
  rw [shiftMonths?, ofDay?_eq_some_iff, Civil.dayNumber_ofMonthIndex]

theorem index_weekday (d : Date) : (d.weekday.index : Int) = (d.day + 3) % 7 := by
  rw [weekday, Weekday.index_ofIndex (by omega)]
  omega

theorem firstOfWeek_day (d : Date) (weekStart : Weekday) :
    (d.firstOfWeek weekStart).day =
      if firstDay ≤ Granularity.week.leadDay weekStart (Granularity.week.leadIndex weekStart d.day) then
        Granularity.week.leadDay weekStart (Granularity.week.leadIndex weekStart d.day)
      else d.day := by
  have index := index_weekday d
  have start := weekStart.index_lt
  have today := d.weekday.index_lt
  have last := d.le_last
  have lead : Granularity.week.leadDay weekStart (Granularity.week.leadIndex weekStart d.day) =
      d.day + -(d.weekday.daysSince weekStart) := by
    unfold Weekday.daysSince
    simp only [Granularity.leadDay, Granularity.leadIndex]
    omega
  rw [lead, firstOfWeek, addDays?]
  split
  · next low =>
    obtain ⟨b, found, day⟩ := ofDay?_inside low (by omega)
    rw [found, Option.getD_some, day]
  · next low =>
    rw [ofDay?_eq_none_iff.2 (.inl (Int.not_le.1 low)), Option.getD_none]

theorem firstOfMonth_day (d : Date) : d.firstOfMonth.day = monthStart (Civil.ofDay d.day).monthIndex := by
  have start := Civil.monthStart_ofDay d.day
  have low : firstDay ≤ monthStart (Civil.ofDay d.day).monthIndex := by
    rw [firstDay_eq_monthStart]
    exact monthStart_le (Civil.monthStart_le_iff.1 (firstDay_eq_monthStart ▸ d.first_le))
  have first := (Civil.ofDay_valid d.day).2.2.1
  have last := d.le_last
  obtain ⟨b, found, day⟩ := ofDay?_inside (n := d.day + (1 - (Civil.ofDay d.day).day)) (by omega) (by omega)
  rw [firstOfMonth, addDays?, civil, found, Option.getD_some, day]
  omega

end Date

namespace Calendar

/-- The first date of a date's bucket is the leading day, or the date itself where that is not
    representable. -/
theorem bucketDate_day_eq (cal : Calendar) (g : Granularity) (d : Date) :
    (cal.bucketDate g d).day =
      if firstDay ≤ g.leadDay cal.weekStart (g.leadIndex cal.weekStart d.day) then
        g.leadDay cal.weekStart (g.leadIndex cal.weekStart d.day)
      else d.day := by
  cases g with
  | week => exact d.firstOfWeek_day cal.weekStart
  | month =>
    have lead : Granularity.month.leadDay cal.weekStart (Granularity.month.leadIndex cal.weekStart d.day) =
        d.firstOfMonth.day := d.firstOfMonth_day.symm
    rw [lead, if_pos d.firstOfMonth.first_le]
    rfl
  | minute | hour | day =>
    split
    · rfl
    · rfl

theorem bucketDate_day (cal : Calendar) (g : Granularity) {d : Date} (inside : firstDay + 30 ≤ d.day) :
    (cal.bucketDate g d).day = g.leadDay cal.weekStart (g.leadIndex cal.weekStart d.day) := by
  have after := (g.leadDay_leadIndex cal.weekStart d.day).2
  have length := (g.leadDay_succ_bounds cal.weekStart (g.leadIndex cal.weekStart d.day)).2
  have longest := g.longestDays_le
  rw [bucketDate_day_eq, if_pos (by omega)]

/-- The date one bucket later is that of the following day. -/
theorem nextDate?_eq_some_iff {g : Granularity} {d n : Date} :
    nextDate? g d = some n ↔ n.day = g.followingDay d.day := by
  cases g with
  | month =>
    -- The first of a month moves on to the first of the next one.
    have lead := d.firstOfMonth_day
    have index := Civil.monthIndex_monthStart (Civil.ofDay d.day).monthIndex
    have start := Civil.monthStart_ofDay (monthStart (Civil.ofDay d.day).monthIndex)
    rw [index] at start
    have long := (monthLength_bounds ((Civil.ofDay d.day).monthIndex + 1)).1
    rw [nextDate?, Date.shiftMonths?_eq_some_iff, Date.civil, lead, index]
    simp only [Granularity.followingDay]
    omega
  | minute | hour | day | week => exact Date.ofDay?_eq_some_iff

/-- Away from the end there is a date one bucket later. -/
theorem nextDate?_day (g : Granularity) {d : Date} (high : d.day + 31 ≤ lastDay) :
    ∃ n, nextDate? g d = some n ∧ n.day = g.followingDay d.day := by
  have bounds := g.followingDay_bounds d.day
  have longest := g.longestDays_le
  have first := d.first_le
  obtain ⟨n, _, day⟩ := Date.ofDay?_inside (n := g.followingDay d.day) (by omega) (by omega)
  exact ⟨n, nextDate?_eq_some_iff.2 day, day⟩

end Calendar

end BucketPlan
