import BucketPlan.Proofs.Bucket.Walk
import BucketPlan.Proofs.Calendar.DateSpan

namespace BucketPlan.FixedRule

variable {r : FixedRule} (lasting : r.Lasting) (narrow : r.Narrow) (weekStart : Weekday)
include lasting narrow

theorem opening_lt_iff {g : Granularity} {i j : Int} :
    r.opening g weekStart i < r.opening g weekStart j ↔ i < j := by
  rw [opening, opening, dawn_lt_iff lasting narrow, ← Int.not_le, Granularity.leadDay_le_iff,
    Granularity.leadIndex_leadDay, Int.not_le]

variable {g : Granularity} (byDate : g.unitSeconds? = none)
include byDate

/-- A cursor before the opening of a bucket yields the openings of that bucket and of all
    those up to the end. -/
theorem exists_yields_openings {stop : Instant} (insideStop : stop.InsideBy 80) (n : Nat) {start : Instant} {i : Int}
    (first : (r.calendar weekStart).Boundary g start) (insideStart : start.InsideBy 80)
    (opens : start.place = r.opening g weekStart i) (closes : stop.place = r.opening g weekStart (i + n)) :
    ∃ starts, Cursor.Yields (r.calendar weekStart) ⟨g, some start, stop⟩ starts ∧
      starts.map Moment.place = (List.range n).map fun k : Nat => r.opening g weekStart (i + k) := by
  induction n generalizing start i with
  | zero =>
    have same : start = stop := Moment.place_injective (by rw [opens, closes]; simp)
    subst same
    refine ⟨[], .ends ?_, rfl⟩
    simp only [Cursor.next?, lt_irrefl, if_false]
  | succ n ih =>
    obtain ⟨following, next, boundary, place⟩ := next_place weekStart byDate lasting narrow insideStart first
    rw [opens, bucketAt_opening lasting narrow] at place
    have later : start < following := by
      rw [Moment.lt_iff_place, opens, place, opening_lt_iff lasting narrow]
      omega
    have reached : following ≤ stop := by
      rw [Moment.le_iff_place, place, closes, ← Int.not_lt, opening_lt_iff lasting narrow]
      omega
    obtain ⟨starts, yields, places⟩ := ih boundary (insideStart.between insideStop (le_of_lt later) reached) place
      (by rw [closes]; congr 1; omega)
    refine ⟨start :: starts, ?_, ?_⟩
    · refine .step (Cursor.next?_eq_some_iff.2 ⟨rfl, lt_of_lt_of_le later reached, some following, next, rfl⟩) ?_
      rw [Option.filter_some, if_pos (decide_eq_true later)]
      exact yields
    · rw [List.map_cons, places, List.range_succ_eq_map, List.map_cons, List.map_map, opens]
      congr 1
      · simp
      · refine List.map_congr_left fun k _ => ?_
        simp only [Function.comp_apply, Nat.succ_eq_add_one]
        congr 1
        omega

/-- Between two boundaries the bucket starts of a period are the openings of the buckets
    from its start up to its end. -/
theorem exists_bucketStarts_openings {p : Period} (first : (r.calendar weekStart).Boundary g p.start)
    (last : (r.calendar weekStart).Boundary g p.stop) (order : p.start ≤ p.stop) (insideStart : p.start.InsideBy 80)
    (insideStop : p.stop.InsideBy 80) :
    ∃ starts n, (r.calendar weekStart).bucketStarts g p = .ok starts ∧
      r.bucketAt g weekStart p.stop.place = r.bucketAt g weekStart p.start.place + (n : Nat) ∧
      starts.map Moment.place =
        (List.range n).map fun k : Nat => r.opening g weekStart (r.bucketAt g weekStart p.start.place + k) := by
  have opens := boundary_place weekStart byDate (insideStart.mono 40 (by decide)) first
  have closes := boundary_place weekStart byDate (insideStop.mono 40 (by decide)) last
  have upward : r.bucketAt g weekStart p.start.place ≤ r.bucketAt g weekStart p.stop.place := by
    rwa [Moment.le_iff_place, opens, closes, ← Int.not_lt, opening_lt_iff lasting narrow, Int.not_lt] at order
  obtain ⟨n, numbers⟩ := Int.le.dest upward
  rw [← numbers] at closes
  obtain ⟨starts, yields, places⟩ :=
    exists_yields_openings lasting narrow weekStart byDate insideStop n first insideStart opens closes
  exact ⟨starts, n, Calendar.bucketStarts_eq_ok_iff.2 yields, numbers.symm, places⟩

end BucketPlan.FixedRule
