import BucketPlan.Proofs.Calendar.RegularOrder
import Mathlib.Order.Bounds.Basic

namespace BucketPlan

namespace Calendar

/-- The instants at which a bucket starts. -/
def boundaries (cal : Calendar) (g : Granularity) : Set Instant := {b | cal.isBoundary g b = .ok true}

/-- The bucket around an instant, by its floor and its ceiling, and by the order of all
    boundaries. -/
structure Encloses (cal : Calendar) (g : Granularity) (t f c : Instant) : Prop where
  floor : cal.floor g t = .ok f
  ceil : cal.ceil g t = .ok c
  greatest : IsGreatest {b ∈ cal.boundaries g | b ≤ t} f
  least : IsLeast {b ∈ cal.boundaries g | t ≤ b} c

/-- The boundaries next to a boundary, by the steps to them, and by the order of all
    boundaries. -/
structure Neighbours (cal : Calendar) (g : Granularity) (b p n : Instant) : Prop where
  previous : cal.previous g b = .ok (some p)
  next : cal.next g b = .ok (some n)
  greatest : IsGreatest {c ∈ cal.boundaries g | c < b} p
  least : IsLeast {c ∈ cal.boundaries g | b < c} n

variable {cal : Calendar} {g : Granularity}

theorem mem_boundaries_iff {b : Instant} : b ∈ cal.boundaries g ↔ cal.Boundary g b := isBoundary_iff

/-- Floors and ceilings keep the order of the instants. -/
theorem Encloses.mono {t u f c f' c' : Instant} (first : cal.Encloses g t f c) (second : cal.Encloses g u f' c')
    (le : t ≤ u) : f ≤ f' ∧ c ≤ c' :=
  ⟨first.greatest.mono second.greatest fun _ within => ⟨within.1, le_trans within.2 le⟩,
    second.least.mono first.least fun _ beyond => ⟨beyond.1, le_trans le beyond.2⟩⟩

namespace Ordered

theorem exists_encloses (ordered : cal.Ordered g) {t : Instant} (inside : t.InsideBy 160) (plain : ¬ t.InLeapSecond) :
    ∃ f c, cal.Encloses g t f c := by
  obtain ⟨f, floor, isF, before, _, greatest⟩ := ordered.floor_greatest (inside.mono _ (by decide)) plain
  obtain ⟨c, ceil, isC, after, _⟩ := ordered.ceil_spec inside plain
  refine ⟨f, c, floor, ceil, ⟨⟨mem_boundaries_iff.2 isF, before⟩, ?_⟩, ⟨mem_boundaries_iff.2 isC, after⟩, ?_⟩
  · rintro b ⟨isB, within⟩
    exact greatest b (mem_boundaries_iff.1 isB) within
  · rintro b ⟨isB, beyond⟩
    exact ordered.ceil_least inside plain ceil (mem_boundaries_iff.1 isB) beyond

theorem exists_neighbours (ordered : cal.Ordered g) {b : Instant} (inside : b.InsideBy 120)
    (boundary : cal.Boundary g b) : ∃ p n, cal.Neighbours g b p n := by
  obtain ⟨p, previous, below, _⟩ := ordered.previous_adjacent inside boundary
  obtain ⟨n, above⟩ := ordered.next_adjacent (inside.mono _ (by decide)) boundary
  refine ⟨p, n, previous, above.next, ⟨⟨mem_boundaries_iff.2 below.first, below.later⟩, ?_⟩,
    ⟨mem_boundaries_iff.2 above.second, above.later⟩, ?_⟩
  · rintro c ⟨isC, before⟩
    exact below.clear (mem_boundaries_iff.1 isC) before
  · rintro c ⟨isC, after⟩
    exact above.second_le (mem_boundaries_iff.1 isC) after

end Ordered

end Calendar

namespace FixedRule

/-- Over a regular rule floor, ceiling and the steps between boundaries are the greatest and
    the least boundaries on their side, and floor and ceiling are monotone. -/
theorem boundaries_extremal {r : FixedRule} {g : Granularity} (regular : r.Regular g) (weekStart : Weekday) :
    (∀ t : Instant, t.InsideBy Moment.quarterCentury → ¬ t.InLeapSecond →
      ∃ f c, (r.calendar weekStart).Encloses g t f c ∧
        ∀ u f' c', t ≤ u → u.InsideBy Moment.quarterCentury → ¬ u.InLeapSecond →
          (r.calendar weekStart).floor g u = .ok f' → (r.calendar weekStart).ceil g u = .ok c' → f ≤ f' ∧ c ≤ c') ∧
    ∀ b : Instant, b.InsideBy Moment.quarterCentury → (r.calendar weekStart).isBoundary g b = .ok true →
      ∃ p n, (r.calendar weekStart).Neighbours g b p n := by
  have ordered := regular.ordered weekStart
  constructor
  · intro t inside plain
    obtain ⟨f, c, encloses⟩ := ordered.exists_encloses (inside.mono _ (by decide)) plain
    refine ⟨f, c, encloses, ?_⟩
    intro u f' c' le insideU plainU floor ceil
    obtain ⟨_, _, enclosesU⟩ := ordered.exists_encloses (insideU.mono _ (by decide)) plainU
    obtain rfl := Except.ok.inj (floor.symm.trans enclosesU.floor)
    obtain rfl := Except.ok.inj (ceil.symm.trans enclosesU.ceil)
    exact encloses.mono enclosesU le
  · intro b inside boundary
    exact ordered.exists_neighbours (inside.mono _ (by decide)) (Calendar.isBoundary_iff.1 boundary)

/-- On Lord Howe Island the clock goes back from 2:00 to 1:30, at 15:00 UTC on 6 April, so the
    hour that begins at 14:00 UTC lasts for ninety minutes. -/
theorem lordHowe2024_extremal :
    (lordHowe2024.calendar .monday).Encloses .hour ((Moment.ofSeconds? 1712416200).get (by decide))
        ((Moment.ofSeconds? 1712412000).get (by decide)) ((Moment.ofSeconds? 1712417400).get (by decide)) ∧
      (lordHowe2024.calendar .monday).Neighbours .hour ((Moment.ofSeconds? 1712412000).get (by decide))
        ((Moment.ofSeconds? 1712408400).get (by decide)) ((Moment.ofSeconds? 1712417400).get (by decide)) := by
  obtain ⟨instants, steps⟩ := boundaries_extremal (regular_lordHowe2024 .hour) .monday
  constructor
  · obtain ⟨f, c, encloses, _⟩ :=
      instants ((Moment.ofSeconds? 1712416200).get (by decide)) (by decide) (by decide)
    have floor : (lordHowe2024.calendar .monday).floor .hour ((Moment.ofSeconds? 1712416200).get (by decide)) =
        .ok ((Moment.ofSeconds? 1712412000).get (by decide)) := by decide +kernel
    have ceil : (lordHowe2024.calendar .monday).ceil .hour ((Moment.ofSeconds? 1712416200).get (by decide)) =
        .ok ((Moment.ofSeconds? 1712417400).get (by decide)) := by decide +kernel
    rwa [← Except.ok.inj (encloses.floor.symm.trans floor), ← Except.ok.inj (encloses.ceil.symm.trans ceil)]
  · obtain ⟨p, n, neighbours⟩ :=
      steps ((Moment.ofSeconds? 1712412000).get (by decide)) (by decide) (by decide +kernel)
    have previous : (lordHowe2024.calendar .monday).previous .hour ((Moment.ofSeconds? 1712412000).get (by decide)) =
        .ok (some ((Moment.ofSeconds? 1712408400).get (by decide))) := by decide +kernel
    have next : (lordHowe2024.calendar .monday).next .hour ((Moment.ofSeconds? 1712412000).get (by decide)) =
        .ok (some ((Moment.ofSeconds? 1712417400).get (by decide))) := by decide +kernel
    have isPrevious := Except.ok.inj (neighbours.previous.symm.trans previous)
    have isNext := Except.ok.inj (neighbours.next.symm.trans next)
    rwa [← Option.some.inj isPrevious, ← Option.some.inj isNext]

end FixedRule

end BucketPlan
