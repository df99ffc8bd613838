import BucketPlan.Proofs.Bucket.Walk
import BucketPlan.Proofs.Calendar.RegularOrder
import BucketPlan.Proofs.Period.Normalized
import Mathlib.Data.List.Chain

/-!
A walk from boundary to adjacent boundary tiles the time between its ends (`Tiles`):
it meets every boundary there once and in order. Two tilings join where they meet,
and a cursor yields the tiling of its period (`Tiles.bucketStarts`). In an ordered
calendar there is a tiling between any two boundaries (`Ordered.tiles`), so the
buckets of an accepted period tile it and every instant of it lies in one of them
(`normalize_tiles`).
-/

namespace BucketPlan

namespace Calendar

/-- A walk from boundary to adjacent boundary, from `start` over the boundaries of a
    list up to `stop`. -/
inductive Tiles (cal : Calendar) (g : Granularity) (stop : Instant) : Instant → List Instant → Prop
  | done : Tiles cal g stop stop []
  | step {start following : Instant} {starts : List Instant} (adjacent : cal.Adjacent g start following)
      (rest : Tiles cal g stop following starts) : Tiles cal g stop start (start :: starts)

variable {cal : Calendar} {g : Granularity} {start stop : Instant} {starts : List Instant}

namespace Tiles

theorem le (tiles : cal.Tiles g stop start starts) : start ≤ stop := by
  induction tiles with
  | done => exact le_refl stop
  | step adjacent _ ih => exact le_trans (le_of_lt adjacent.later) ih

/-- A tiling lists the boundaries between its ends. -/
theorem mem_iff (tiles : cal.Tiles g stop start starts) {b : Instant} :
    b ∈ starts ↔ cal.Boundary g b ∧ start ≤ b ∧ b < stop := by
  induction tiles with
  | done =>
    simp only [List.not_mem_nil, false_iff]
    rintro ⟨_, low, high⟩
    exact absurd high (not_lt.2 low)
  | @step a following starts adjacent rest ih =>
    rw [List.mem_cons, ih]
    constructor
    · rintro (rfl | ⟨isB, low, high⟩)
      · exact ⟨adjacent.first, le_refl b, lt_of_lt_of_le adjacent.later rest.le⟩
      · exact ⟨isB, le_trans (le_of_lt adjacent.later) low, high⟩
    · rintro ⟨isB, low, high⟩
      rcases lt_or_eq_of_le low with after | same
      · exact .inr ⟨isB, adjacent.second_le isB after, high⟩
      · exact .inl same.symm

theorem increasing (tiles : cal.Tiles g stop start starts) : starts.Pairwise (· < ·) := by
  induction tiles with
  | done => exact .nil
  | step adjacent rest ih =>
    refine List.pairwise_cons.2 ⟨?_, ih⟩
    intro b member
    exact lt_of_lt_of_le adjacent.later (rest.mem_iff.1 member).2.1

theorem head (tiles : cal.Tiles g stop start starts) : (starts ++ [stop]).head? = some start := by
  cases tiles with
  | done => rfl
  | step => rfl

theorem chain (tiles : cal.Tiles g stop start starts) :
    (starts ++ [stop]).IsChain fun a b => cal.next g a = .ok (some b) := by
  induction tiles with
  | done => exact .singleton stop
  | step adjacent rest ih =>
    rw [List.cons_append, List.isChain_cons]
    refine ⟨?_, ih⟩
    rw [rest.head]
    intro b same
    rw [← Option.mem_some.1 same]
    exact adjacent.next

/-- Two tilings join where they meet. -/
theorem append {middle : Instant} {more : List Instant} (tiles : cal.Tiles g middle start starts)
    (further : cal.Tiles g stop middle more) : cal.Tiles g stop start (starts ++ more) := by
  induction tiles with
  | done => exact further
  | step adjacent _ ih => exact .step adjacent ih

/-- A cursor yields the tiling that it stands before. -/
theorem yields (tiles : cal.Tiles g stop start starts) : Cursor.Yields cal ⟨g, some start, stop⟩ starts := by
  induction tiles with
  | done =>
    refine .ends ?_
    simp only [Cursor.next?, lt_irrefl, if_false]
  | @step a following starts adjacent rest ih =>
    have inside : a < stop := lt_of_lt_of_le adjacent.later rest.le
    refine .step (Cursor.next?_eq_some_iff.2 ⟨rfl, inside, some following, adjacent.next, rfl⟩) ?_
    rw [Option.filter_some, if_pos (decide_eq_true adjacent.later)]
    exact ih

theorem bucketStarts {timezone : String} (tiles : cal.Tiles g stop start starts) :
    cal.bucketStarts g ⟨start, stop, timezone⟩ = .ok starts := bucketStarts_eq_ok_iff.2 tiles.yields

end Tiles

/-- In an ordered calendar there is a tiling from one boundary to another. -/
theorem Ordered.tiles (ordered : cal.Ordered g) {start : Instant} (first : cal.Boundary g start)
    (last : cal.Boundary g stop) (le : start ≤ stop) (insideStart : start.InsideBy 80)
    (insideStop : stop.InsideBy 80) : ∃ starts, cal.Tiles g stop start starts := by
  by_cases same : start = stop
  · subst same
    exact ⟨[], .done⟩
  · obtain ⟨following, adjacent⟩ := ordered.next_adjacent insideStart first
    have reached : following ≤ stop := adjacent.second_le last (lt_of_le_of_ne le same)
    have closer := (Moment.lt_iff_seconds adjacent.second.nanos).1 adjacent.later
    have room := (Moment.le_iff_seconds adjacent.second.nanos).1 reached
    have inside := insideStart.between insideStop (le_of_lt adjacent.later) reached
    obtain ⟨starts, rest⟩ := Ordered.tiles ordered adjacent.second last reached inside insideStop
    exact ⟨start :: starts, .step adjacent rest⟩
termination_by (stop.seconds - start.seconds).toNat
decreasing_by omega

/-- The buckets of an accepted period tile it, and the floor of an instant of it is
    the start of the bucket that the instant lies in. -/
theorem Ordered.normalize_tiles (ordered : cal.Ordered g) {rawStart rawStop : Instant}
    (plainStart : ¬ rawStart.InLeapSecond) (plainStop : ¬ rawStop.InLeapSecond)
    (insideStart : rawStart.InsideBy 160) (insideStop : rawStop.InsideBy 160) {p : Period}
    (accepted : cal.normalize g rawStart rawStop = .ok p) :
    ∃ starts, cal.Tiles g p.stop p.start starts ∧ starts ≠ [] ∧
      ∀ x, ¬ x.InLeapSecond → p.Contains x → ∃ f following, cal.floor g x = .ok f ∧ f ∈ starts ∧
        cal.Adjacent g f following ∧ f ≤ x ∧ x < following := by
  obtain ⟨_, start, stop, floor, ceil, le, bounded⟩ := normalize_eq_ok_iff.1 accepted
  obtain ⟨_, rfl, n, count, within⟩ := boundedPeriod_eq_ok_iff.1 bounded
  obtain ⟨f, isFloor, first, _, _, _⟩ := ordered.floor_greatest (insideStart.mono _ (by decide)) plainStart
  obtain ⟨c, isCeil, last, after, close⟩ := ordered.ceil_spec insideStop plainStop
  have reach := g.reach_bounds
  rw [isFloor] at floor
  rw [isCeil] at ceil
  cases floor
  cases ceil
  have insideF := floor_inside isFloor insideStart 80 (by decide)
  have insideC : stop.InsideBy 80 := by
    have high := after
    rw [Moment.le_def, Moment.lt_def] at high
    rw [Moment.insideBy_def] at *
    omega
  obtain ⟨starts, tiles⟩ := ordered.tiles first last le insideF insideC
  refine ⟨starts, tiles, ?_, ?_⟩
  · -- No granularity allows a period without buckets.
    rintro rfl
    have none : cal.bucketStarts g ⟨start, stop, cal.zone.id⟩ = .ok [] := tiles.bucketStarts
    rw [bucketCount, none] at count
    cases count
    exact absurd (Granularity.pos_of_contains within) (Nat.lt_irrefl 0)
  · intro x plain contained
    have insideX : x.InsideBy 80 := insideF.between insideC contained.1 (le_of_lt contained.2)
    obtain ⟨e, floorX, isE, ex, _, greatest⟩ := ordered.floor_greatest insideX plain
    have se : start ≤ e := greatest start first contained.1
    have member : e ∈ starts := tiles.mem_iff.2 ⟨isE, se, lt_of_le_of_lt ex contained.2⟩
    obtain ⟨following, adjacent⟩ := ordered.next_adjacent (insideF.between insideX se ex) isE
    refine ⟨e, following, floorX, member, adjacent, ex, ?_⟩
    by_contra reached
    exact absurd adjacent.later (not_lt.2 (greatest following adjacent.second (not_lt.1 reached)))

end Calendar

/-- The bucket starts of a period cut it up exactly: they begin with its start, each
    leads to the next one and the last one to the end, and an instant of the period has
    the last start at or before it as its floor. -/
structure Period.TiledBy (p : Period) (cal : Calendar) (s : BucketSequence) : Prop where
  nonempty : s.starts ≠ []
  head : s.starts.head? = some p.start
  chain : (s.starts ++ [p.stop]).IsChain fun a b => cal.next s.granularity a = .ok (some b)
  floor {x : Instant} (plain : ¬ x.InLeapSecond) (contained : p.Contains x) :
    ∃ f following, cal.floor s.granularity x = .ok f ∧ f ∈ s.starts ∧ f ≤ x ∧ (∀ b ∈ s.starts, b ≤ x → b ≤ f) ∧
      cal.next s.granularity f = .ok (some following) ∧ x < following

namespace FixedRule

/-- Over a regular rule the buckets of an accepted period tile it. -/
theorem normalize_tiled {r : FixedRule} {g : Granularity} (regular : r.Regular g) (weekStart : Weekday)
    {rawStart rawStop : Instant} (plainStart : ¬ rawStart.InLeapSecond) (plainStop : ¬ rawStop.InLeapSecond)
    (insideStart : rawStart.InsideBy Moment.quarterCentury) (insideStop : rawStop.InsideBy Moment.quarterCentury)
    {p : Period} (accepted : (r.calendar weekStart).normalize g rawStart rawStop = .ok p) :
    ∃ s, (r.calendar weekStart).bucketSequence g p = .ok s ∧ s.granularity = g ∧
      p.TiledBy (r.calendar weekStart) s := by
  obtain ⟨starts, tiles, nonempty, covers⟩ := (regular.ordered weekStart).normalize_tiles plainStart plainStop
    (insideStart.mono _ (by decide)) (insideStop.mono _ (by decide)) accepted
  refine ⟨⟨g, p.timezone, starts⟩, ?_, rfl, nonempty, ?_, tiles.chain, ?_⟩
  · exact bind_eq_ok_iff.2 ⟨starts, tiles.bucketStarts, rfl⟩
  · have head := tiles.head
    rwa [List.head?_append_of_ne_nil _ nonempty] at head
  · intro x plain contained
    obtain ⟨f, following, floor, member, adjacent, fx, xn⟩ := covers x plain contained
    refine ⟨f, following, floor, member, fx, ?_, adjacent.next, xn⟩
    intro b isStart bx
    by_contra after
    have reached := adjacent.second_le (tiles.mem_iff.1 isStart).1 (not_le.1 after)
    exact absurd xn (not_lt.2 (le_trans reached bx))

/-- Two days in New York, over the hour that 10 March lacks. -/
theorem newYork2024_tiled :
    ∃ p s, (newYork2024.calendar .monday).normalize .hour (.midnight ⟨19791, by decide, by decide⟩)
        (.midnight ⟨19793, by decide, by decide⟩) = .ok p ∧
      (newYork2024.calendar .monday).bucketSequence .hour p = .ok s ∧ s.granularity = .hour ∧
      p.TiledBy (newYork2024.calendar .monday) s := by
  have accepted : (newYork2024.calendar .monday).normalize .hour (.midnight ⟨19791, by decide, by decide⟩)
      (.midnight ⟨19793, by decide, by decide⟩) = .ok ⟨.midnight ⟨19791, by decide, by decide⟩,
        .midnight ⟨19793, by decide, by decide⟩, "America/New_York"⟩ := by decide +kernel
  obtain ⟨s, run, granularity, tiled⟩ := normalize_tiled (regular_newYork2024 .hour) .monday (by decide)
    (by decide) (by decide) (by decide) accepted
  exact ⟨_, s, accepted, run, granularity, tiled⟩

end FixedRule

end BucketPlan
