import BucketPlan.Proofs.Calendar.Boundaries

namespace BucketPlan.Calendar

variable (cal : Calendar) (g : Granularity) {d e : Date}

theorem bucketDate_day_le (d : Date) : (cal.bucketDate g d).day ≤ d.day := (cal.bucketDate_near g d).2

/-- By the clock every date begins a bucket. -/
theorem bucketDate_byClock {g : Granularity} {unit : Nat} (byClock : g.unitSeconds? = some unit) (d : Date) :
    cal.bucketDate g d = d := by
  cases g with
  | minute | hour => rfl
  | day | week | month => cases byClock

/-- Of two dates the later one does not lie in an earlier bucket. -/
theorem bucketDate_le (le : d.day ≤ e.day) : (cal.bucketDate g d).day ≤ (cal.bucketDate g e).day := by
  have index : g.leadIndex cal.weekStart d.day ≤ g.leadIndex cal.weekStart e.day :=
    Granularity.leadDay_le_iff.1 (Int.le_trans (g.leadDay_leadIndex cal.weekStart d.day).1 le)
  have lead : g.leadDay cal.weekStart (g.leadIndex cal.weekStart d.day) ≤
      g.leadDay cal.weekStart (g.leadIndex cal.weekStart e.day) := Granularity.leadDay_le_leadDay_iff.2 index
  have first := (g.leadDay_leadIndex cal.weekStart d.day).1
  rw [bucketDate_day_eq, bucketDate_day_eq]
  split
  · rw [if_pos (by omega)]
    exact lead
  · next cut =>
    split
    · next whole =>
      -- Their buckets differ, so the later one begins behind the earlier date.
      by_contra behind
      have same := Granularity.leadDay_le_iff.1 (Int.le_of_lt (Int.not_le.1 behind))
      rw [Int.le_antisymm index same] at cut
      exact cut whole
    · exact le

/-- The first date of a bucket begins it. -/
theorem bucketDate_bucketDate (d : Date) : cal.bucketDate g (cal.bucketDate g d) = cal.bucketDate g d := by
  apply Date.day_injective
  by_cases whole : firstDay ≤ g.leadDay cal.weekStart (g.leadIndex cal.weekStart d.day)
  · have day := cal.bucketDate_day_eq g d
    rw [if_pos whole] at day
    rw [bucketDate_day_eq, day, Granularity.leadIndex_leadDay, if_pos whole]
  · have same : cal.bucketDate g d = d := Date.day_injective (by rw [bucketDate_day_eq, if_neg whole])
    rw [same, same]

theorem lt_of_nextDate? {n : Date} (found : nextDate? g (cal.bucketDate g d) = some n) : d.day < n.day := by
  have following := g.followingDay_bounds d.day
  have own := g.leadDay_leadIndex cal.weekStart d.day
  rw [nextDate?_eq_some_iff, bucketDate_day_eq] at found
  split at found
  · rw [Granularity.followingDay_leadDay] at found
    omega
  · omega

/-! ## Counting them -/

/-- A date with this number begins a bucket. -/
def leads (n : Int) : Bool := (Date.ofDay? n).any fun d => cal.bucketDate g d = d

/-- The number of buckets that begin before a date. -/
def leadsBefore (d : Date) : Nat :=
  (List.range (d.day - firstDay).toNat).countP fun k : Nat => cal.leads g (firstDay + k)

variable {cal g}

theorem leads_iff : cal.leads g d.day = true ↔ cal.bucketDate g d = d := by
  rw [leads, Date.ofDay?_day, Option.any_some, decide_eq_true_eq]

theorem leadsBefore_first (first : d.day = firstDay) : cal.leadsBefore g d = 0 := by
  rw [leadsBefore, first, Int.sub_self]
  rfl

theorem leads_eq_false {n : Int} (after : (cal.bucketDate g d).day < n) (le : n ≤ d.day) : cal.leads g n = false := by
  have first := (cal.bucketDate g d).first_le
  have last := d.le_last
  obtain ⟨x, _, day⟩ := Date.ofDay?_inside (n := n) (by omega) (by omega)
  have own := cal.bucketDate_le g (d := x) (e := d) (by omega)
  rw [← day, Bool.eq_false_iff]
  intro leads
  rw [leads_iff.1 leads] at own
  omega

/-- One bucket back there is one less that begins before. -/
theorem leadsBefore_eq_succ (follows : e.day = d.day + 1) :
    cal.leadsBefore g e = cal.leadsBefore g (cal.bucketDate g d) + 1 := by
  have low := (cal.bucketDate g d).first_le
  have back := cal.bucketDate_day_le g d
  -- From the first date of the bucket on, up to `d`, the count has grown by one.
  have grown : ∀ j : Nat, (cal.bucketDate g d).day + j ≤ d.day →
      (List.range (((cal.bucketDate g d).day - firstDay).toNat + 1 + j)).countP
          (fun k : Nat => cal.leads g (firstDay + k)) = cal.leadsBefore g (cal.bucketDate g d) + 1 := by
    intro j within
    induction j with
    | zero =>
      have begins : cal.leads g (firstDay + (((cal.bucketDate g d).day - firstDay).toNat : Int)) = true := by
        rw [show firstDay + (((cal.bucketDate g d).day - firstDay).toNat : Int) = (cal.bucketDate g d).day by omega,
          leads_iff, bucketDate_bucketDate]
      rw [Nat.add_zero, List.range_succ, List.countP_append, List.countP_singleton, begins, leadsBefore]
      rfl
    | succ j ih =>
      have inside : cal.leads g (firstDay + (((cal.bucketDate g d).day - firstDay).toNat + 1 + j : Nat)) = false :=
        leads_eq_false (d := d) (by omega) (by omega)
      rw [← Nat.add_assoc, List.range_succ, List.countP_append, List.countP_singleton, inside, ih (by omega)]
      rfl
  have all := grown (d.day - (cal.bucketDate g d).day).toNat (by omega)
  rw [← all, leadsBefore]
  congr 2
  omega

theorem le_leadsBefore (g : Granularity) (e : Date) : e.day - firstDay ≤ 31 * cal.leadsBefore g e := by
  rcases Int.lt_or_eq_of_le e.first_le with later | first
  · have last := e.le_last
    obtain ⟨d, _, day⟩ := Date.ofDay?_inside (n := e.day - 1) (by omega) (by omega)
    have near := cal.bucketDate_near g d
    have count : cal.leadsBefore g e = cal.leadsBefore g (cal.bucketDate g d) + 1 := leadsBefore_eq_succ (by omega)
    have back := le_leadsBefore g (cal.bucketDate g d)
    omega
  · omega
termination_by (e.day - firstDay).toNat
decreasing_by omega

end BucketPlan.Calendar
