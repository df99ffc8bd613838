import BucketPlan.Proofs.Bucket.Tiling
import Mathlib.Data.Int.Range

/-!
Two boundaries are as far apart as there are buckets between them, counted negative when
the second one is earlier (`Apart`). A tiling can be cut at every boundary in it
(`Tiles.exists_cut`), so these distances add up, whichever way they go (`Apart.trans`). In an
ordered calendar a move by some buckets leads to the boundary at just that distance, forward
over the next boundaries and backward over the floors of the seconds before
(`Ordered.step_of_apart`), so moves from boundaries act on them as the integers do by addition
(`step_additive`).
-/

namespace BucketPlan

namespace Calendar

variable {cal : Calendar} {g : Granularity} {a b c start stop : Instant} {starts : List Instant} {m n : Int}

/-! ## Cutting a tiling -/

namespace Tiles

theorem unique {others : List Instant} (tiles : cal.Tiles g stop start starts)
    (again : cal.Tiles g stop start others) : starts = others := by
  have first : cal.bucketStarts g ⟨start, stop, ""⟩ = .ok starts := tiles.bucketStarts
  exact Except.ok.inj (first.symm.trans again.bucketStarts)

/-- A tiling is made of two at every boundary in it. -/
theorem exists_cut (tiles : cal.Tiles g stop start starts) (boundary : cal.Boundary g c) (since : start ≤ c)
    (before : c ≤ stop) :
    ∃ early late, starts = early ++ late ∧ cal.Tiles g c start early ∧ cal.Tiles g stop c late := by
  induction tiles with
  | done =>
    obtain rfl := le_antisymm since before
    exact ⟨[], [], rfl, .done, .done⟩
  | @step first following starts adjacent rest ih =>
    rcases eq_or_lt_of_le since with rfl | after
    · exact ⟨[], first :: starts, rfl, .done, .step adjacent rest⟩
    · obtain ⟨early, late, rfl, tilesEarly, tilesLate⟩ := ih (adjacent.second_le boundary after)
      exact ⟨first :: early, late, rfl, .step adjacent tilesEarly, tilesLate⟩

theorem drop_late {late : List Instant} (tiles : cal.Tiles g stop start starts) (tilesLate : cal.Tiles g stop c late)
    (boundary : cal.Boundary g c) (since : start ≤ c) :
    ∃ early, cal.Tiles g c start early ∧ starts.length = early.length + late.length := by
  obtain ⟨early, others, rfl, tilesEarly, rest⟩ := tiles.exists_cut boundary since tilesLate.le
  exact ⟨early, tilesEarly, by rw [List.length_append, rest.unique tilesLate]⟩

theorem drop_early {early : List Instant} (tiles : cal.Tiles g stop start starts) (tilesEarly : cal.Tiles g c start early)
    (boundary : cal.Boundary g c) (before : c ≤ stop) :
    ∃ late, cal.Tiles g stop c late ∧ starts.length = early.length + late.length := by
  obtain ⟨others, late, rfl, first, tilesLate⟩ := tiles.exists_cut boundary tilesEarly.le before
  exact ⟨late, tilesLate, by rw [List.length_append, first.unique tilesEarly]⟩

end Tiles

/-! ## Distances -/

/-- As many buckets lie from `a` on up to `b`, or by a negative number from `b` on up to `a`. -/
inductive Apart (cal : Calendar) (g : Granularity) (n : Int) (a b : Instant) : Prop
  | ahead {starts : List Instant} (tiles : cal.Tiles g b a starts) (count : n = starts.length)
  | behind {starts : List Instant} (tiles : cal.Tiles g a b starts) (count : n = -starts.length)

namespace Apart

theorem symm (apart : cal.Apart g n a b) : cal.Apart g (-n) b a := by
  cases apart with
  | ahead tiles count => exact .behind tiles (by omega)
  | behind tiles count => exact .ahead tiles (by omega)

/-- Distances add up, whichever way they go. -/
theorem trans (first : cal.Apart g m a b) (second : cal.Apart g n b c) (isA : cal.Boundary g a)
    (isC : cal.Boundary g c) : cal.Apart g (m + n) a c := by
  cases first with
  | ahead there countM =>
    cases second with
    | ahead further countN =>
      exact .ahead (there.append further) (by rw [List.length_append]; omega)
    | behind back countN =>
      rcases le_total a c with ac | ca
      · obtain ⟨_, rest, length⟩ := there.drop_late back isC ac
        exact .ahead rest (by omega)
      · obtain ⟨_, rest, length⟩ := back.drop_late there isA ca
        exact .behind rest (by omega)
  | behind back countM =>
    cases second with
    | ahead there countN =>
      rcases le_total a c with ac | ca
      · obtain ⟨_, rest, length⟩ := there.drop_early back isA ac
        exact .ahead rest (by omega)
      · obtain ⟨_, rest, length⟩ := back.drop_early there isC ca
        exact .behind rest (by omega)
    | behind further countN =>
      exact .behind (further.append back) (by rw [List.length_append]; omega)

theorem exists_tiles (apart : cal.Apart g n a b) (forward : 0 ≤ n) :
    ∃ starts, cal.Tiles g b a starts ∧ n = starts.length := by
  cases apart with
  | ahead tiles count => exact ⟨_, tiles, count⟩
  | @behind starts tiles count =>
    have none : starts = [] := List.eq_nil_of_length_eq_zero (by omega)
    subst none
    cases tiles
    exact ⟨[], .done, count⟩

theorem lt (apart : cal.Apart g n a b) (forward : 0 < n) : a < b := by
  obtain ⟨starts, tiles, count⟩ := apart.exists_tiles (by omega)
  cases tiles with
  | done => exact absurd count (by simp; omega)
  | step adjacent rest => exact lt_of_lt_of_le adjacent.later rest.le

theorem bucketCount {timezone : String} (apart : cal.Apart g n a b) (forward : 0 ≤ n) :
    cal.bucketCount g ⟨a, b, timezone⟩ = .ok n.toNat := by
  obtain ⟨starts, tiles, count⟩ := apart.exists_tiles forward
  exact bucketCount_eq_ok_iff.2 ⟨starts, tiles.bucketStarts, by omega⟩

end Apart

theorem Adjacent.ahead (adjacent : cal.Adjacent g a b) : cal.Apart g 1 a b := .ahead (.step adjacent .done) rfl

/-! ## Moves -/

theorem walk_succ_of_walk {move : Instant → Except Overflow (Option Instant)} {steps : Nat}
    (walked : walk move steps a = .ok (some b)) : walk move (steps + 1) a = move b := by
  induction steps generalizing a with
  | zero =>
    cases walked
    rw [walk]
    cases run : move b with
    | error e => rfl
    | ok answer => cases answer <;> rfl
  | succ steps ih =>
    obtain ⟨answer, first, rest⟩ := bind_eq_ok_iff.1 walked
    cases answer with
    | none => cases rest
    | some there =>
      rw [walk, first]
      exact ih rest

theorem Tiles.walk_next (tiles : cal.Tiles g stop start starts) :
    walk (cal.next g) starts.length start = .ok (some stop) := by
  induction tiles with
  | done => rfl
  | step adjacent _ ih => exact bind_eq_ok_iff.2 ⟨_, adjacent.next, ih⟩

namespace Ordered

variable (ordered : cal.Ordered g)
include ordered

theorem previous_of_adjacent (adjacent : cal.Adjacent g a b) (inside : b.InsideBy 120) :
    cal.previous g b = .ok (some a) := by
  obtain ⟨c, previous, below, _⟩ := ordered.previous_adjacent inside adjacent.second
  rwa [le_antisymm (adjacent.clear below.first below.later) (below.clear adjacent.first adjacent.later)] at previous

theorem walk_previous_of_tiles (tiles : cal.Tiles g stop start starts) (insideStart : start.InsideBy 120)
    (insideStop : stop.InsideBy 120) : walk (cal.previous g) starts.length stop = .ok (some start) := by
  induction tiles with
  | done => rfl
  | step adjacent rest ih =>
    have insideNext := insideStart.between insideStop (le_of_lt adjacent.later) rest.le
    rw [List.length_cons, walk_succ_of_walk (ih insideNext)]
    exact ordered.previous_of_adjacent adjacent insideNext

/-- A move leads to the boundary at its distance. -/
theorem step_of_apart (apart : cal.Apart g n a b) (insideA : a.InsideBy 120) (insideB : b.InsideBy 120) :
    cal.step g n a = .ok (some b) := by
  cases apart with
  | ahead tiles count =>
    subst count
    rw [step, if_neg (by omega), Int.natAbs_natCast]
    exact tiles.walk_next
  | @behind starts tiles count =>
    subst count
    cases starts with
    | nil =>
      cases tiles
      rfl
    | cons first starts =>
      rw [step_neg (first :: starts).length a (Nat.succ_pos _)]
      exact ordered.walk_previous_of_tiles tiles insideB insideA

end Ordered

/-! ## Moves away from the ends -/

/-- Wherever a move by `n` buckets comes by, its start and its end included, it stays 25 years
    away from the ends of the representable years. -/
def StepsInside (cal : Calendar) (g : Granularity) (n : Int) (t : Instant) : Prop :=
  ∀ k, min 0 n ≤ k → k ≤ max 0 n → ∀ c, cal.step g k t = .ok (some c) → c.InsideBy Moment.quarterCentury

/-- Whether the answer, if there is one, has a property. -/
instance decidableAnswer {p : Instant → Prop} [DecidablePred p] (answer : Except Overflow (Option Instant)) :
    Decidable (∀ c, answer = .ok (some c) → p c) :=
  match answer with
  | .error _ => isTrue (by rintro _ ⟨⟩)
  | .ok none => isTrue (by rintro _ ⟨⟩)
  | .ok (some c) => decidable_of_iff (p c) (by simp)

instance : Decidable (cal.StepsInside g n a) :=
  Int.decidableLELE (fun k => ∀ c, cal.step g k a = .ok (some c) → c.InsideBy Moment.quarterCentury) _ _

theorem StepsInside.sooner (inside : cal.StepsInside g n a) (low : min 0 n ≤ m) (high : m ≤ max 0 n) :
    cal.StepsInside g m a := fun k lowK highK => inside k (by omega) (by omega)

theorem Ordered.exists_step (ordered : cal.Ordered g) (isA : cal.Boundary g a) (inside : cal.StepsInside g n a) :
    ∃ b, cal.step g n a = .ok (some b) ∧ cal.Boundary g b ∧ cal.Apart g n a b ∧ b.InsideBy Moment.quarterCentury := by
  have insideA : a.InsideBy 9131 := inside 0 (by omega) (by omega) a rfl
  have reach := g.reach_bounds
  induction n using Int.induction_on with
  | zero => exact ⟨a, rfl, isA, .ahead .done rfl, insideA⟩
  | succ n ih =>
    obtain ⟨b, _, isB, apart, insideB⟩ := ih (inside.sooner (by omega) (by omega))
    have insideB : b.InsideBy 9131 := insideB
    obtain ⟨c, adjacent⟩ := ordered.next_adjacent (insideB.mono _ (by decide)) isB
    have near := ordered.adjacent_near (insideB.mono _ (by decide)) adjacent
    have later := (Moment.lt_iff_seconds adjacent.second.nanos).1 adjacent.later
    have further := apart.trans adjacent.ahead isA adjacent.second
    have moved := ordered.step_of_apart further (insideA.mono _ (by decide)) (by rw [Moment.insideBy_def] at *; omega)
    exact ⟨c, moved, adjacent.second, further, inside _ (by omega) (by omega) c moved⟩
  | pred n ih =>
    obtain ⟨b, _, isB, apart, insideB⟩ := ih (inside.sooner (by omega) (by omega))
    have insideB : b.InsideBy 9131 := insideB
    obtain ⟨c, _, adjacent, near⟩ := ordered.previous_adjacent (insideB.mono _ (by decide)) isB
    have later := (Moment.lt_iff_seconds adjacent.second.nanos).1 adjacent.later
    have further := apart.trans adjacent.ahead.symm isA adjacent.first
    have moved := ordered.step_of_apart further (insideA.mono _ (by decide)) (by rw [Moment.insideBy_def] at *; omega)
    exact ⟨c, moved, adjacent.first, further, inside _ (by omega) (by omega) c moved⟩

end Calendar

namespace FixedRule

/-- Over a regular rule moves act on boundaries like addition of integers: away from the ends
    a move has a boundary as its answer, one move after another is the move by their sum, a
    move by more leads further, and a move forward passes as many buckets as it says. -/
theorem step_additive {r : FixedRule} {g : Granularity} (regular : r.Regular g) (weekStart : Weekday) {b : Instant}
    (boundary : (r.calendar weekStart).isBoundary g b = .ok true) {m : Int}
    (inside : (r.calendar weekStart).StepsInside g m b) :
    ∃ c, (r.calendar weekStart).step g m b = .ok (some c) ∧ (r.calendar weekStart).isBoundary g c = .ok true ∧
      (∀ n, (r.calendar weekStart).StepsInside g n c → ∃ d, (r.calendar weekStart).step g n c = .ok (some d) ∧
        (r.calendar weekStart).step g (m + n) b = .ok (some d)) ∧
      (∀ n, (r.calendar weekStart).StepsInside g n b → m < n →
        ∃ d, (r.calendar weekStart).step g n b = .ok (some d) ∧ c < d) ∧
      (0 ≤ m → ∀ timezone, (r.calendar weekStart).bucketCount g ⟨b, c, timezone⟩ = .ok m.toNat) := by
  have ordered := regular.ordered weekStart
  have isB := Calendar.isBoundary_iff.1 boundary
  have insideB : b.InsideBy 9131 := inside 0 (by omega) (by omega) b rfl
  obtain ⟨c, moved, isC, apart, _⟩ := ordered.exists_step isB inside
  refine ⟨c, moved, Calendar.isBoundary_iff.2 isC, ?_, ?_, ?_⟩
  · intro n insideN
    obtain ⟨d, movedN, isD, apartN, insideD⟩ := ordered.exists_step isC insideN
    exact ⟨d, movedN, ordered.step_of_apart (apart.trans apartN isB isD) (insideB.mono _ (by decide))
      (insideD.mono _ (by decide))⟩
  · intro n insideN less
    obtain ⟨d, movedN, isD, apartN, _⟩ := ordered.exists_step isB insideN
    exact ⟨d, movedN, (apart.symm.trans apartN isC isD).lt (by omega)⟩
  · intro forward timezone
    exact apart.bucketCount forward

/-- On Lord Howe Island two steps on from 14:00 UTC lie at 16:30 UTC, over the ninety minutes of
    the first hour, and three steps back from there is one step back. -/
theorem lordHowe2024_steps :
    ∃ c d, (lordHowe2024.calendar .monday).step .hour 2 ((Moment.ofSeconds? 1712412000).get (by decide)) = .ok (some c) ∧
      c.seconds = 1712421000 ∧
      (lordHowe2024.calendar .monday).step .hour (-3) c = .ok (some d) ∧
      (lordHowe2024.calendar .monday).step .hour (-1) ((Moment.ofSeconds? 1712412000).get (by decide)) = .ok (some d) ∧
      (lordHowe2024.calendar .monday).bucketCount .hour
        ⟨(Moment.ofSeconds? 1712412000).get (by decide), c, "Australia/Lord_Howe"⟩ = .ok 2 := by
  obtain ⟨c, moved, _, adds, _, counts⟩ := step_additive (regular_lordHowe2024 .hour) .monday
    (b := (Moment.ofSeconds? 1712412000).get (by decide)) (by decide +kernel) (m := 2) (by decide +kernel)
  have there : (lordHowe2024.calendar .monday).step .hour 2 ((Moment.ofSeconds? 1712412000).get (by decide)) =
      .ok (some ((Moment.ofSeconds? 1712421000).get (by decide))) := by decide +kernel
  rw [there] at moved
  cases moved
  obtain ⟨d, back, once⟩ := adds (-3) (by decide +kernel)
  exact ⟨_, d, there, rfl, back, once, counts (by decide) _⟩

end FixedRule

end BucketPlan
