import BucketPlan.Proofs.Calendar.Boundaries
import BucketPlan.Proofs.Calendar.Leading

namespace BucketPlan

/-- Days that no bucket is longer than, wherever its zone shifts the clock. -/
def Granularity.reach (g : Granularity) : Int := g.longestDays + 2

theorem Granularity.reach_bounds (g : Granularity) : 3 ≤ g.reach ∧ g.reach ≤ 33 := by cases g <;> decide

namespace Calendar

/-- Away from the ends of the representable years, floors and next boundaries are
    what the order of the boundaries says. -/
structure Ordered (cal : Calendar) (g : Granularity) : Prop where
  floor_greatest {t : Instant} (inside : t.InsideBy 80) (plain : ¬ t.InLeapSecond) :
    ∃ f, cal.floor g t = .ok f ∧ cal.Boundary g f ∧ f ≤ t ∧ t.seconds < f.seconds + 86400 * g.reach ∧
      ∀ b, cal.Boundary g b → b ≤ t → b ≤ f
  next_least {t : Instant} (inside : t.InsideBy 80) (boundary : cal.Boundary g t) :
    ∃ n, cal.next g t = .ok (some n) ∧ cal.Boundary g n ∧ t < n ∧
      ∀ b, cal.Boundary g b → t < b → n ≤ b

/-- Two boundaries with none between them, the calendar leading from one to the other. -/
structure Adjacent (cal : Calendar) (g : Granularity) (a b : Instant) : Prop where
  first : cal.Boundary g a
  second : cal.Boundary g b
  later : a < b
  next : cal.next g a = .ok (some b)
  clear {c : Instant} (boundary : cal.Boundary g c) (before : c < b) : c ≤ a

variable {cal : Calendar} {g : Granularity}

/-- A boundary at `b` or later is no earlier than the boundary after `a`. -/
theorem Adjacent.second_le {a b c : Instant} (adjacent : cal.Adjacent g a b) (boundary : cal.Boundary g c)
    (after : a < c) : b ≤ c := by
  by_contra before
  exact absurd after (not_lt.2 (adjacent.clear boundary (not_le.1 before)))

namespace Ordered

/-- The next boundary is the one adjacent to a boundary. -/
theorem next_adjacent (ordered : cal.Ordered g) {a : Instant} (inside : a.InsideBy 80)
    (boundary : cal.Boundary g a) : ∃ b, cal.Adjacent g a b := by
  obtain ⟨b, next, isB, later, least⟩ := ordered.next_least inside boundary
  refine ⟨b, boundary, isB, later, next, ?_⟩
  intro c isC before
  by_contra after
  exact absurd before (not_lt.2 (least c isC (not_le.1 after)))

theorem adjacent_near (ordered : cal.Ordered g) {a b : Instant} (inside : a.InsideBy 120)
    (adjacent : cal.Adjacent g a b) : b.seconds ≤ a.seconds + 86400 * g.reach := by
  have reach := g.reach_bounds
  -- The floor of an instant that far after `a` is later than `a`.
  obtain ⟨x, _, exact⟩ := Moment.addSeconds?_inside (d := 86400 * g.reach) inside (by omega) (by omega)
  obtain ⟨seconds, nanos⟩ := exact adjacent.first.plain
  have near : x.InsideBy 80 := by rw [Moment.insideBy_def] at *; omega
  obtain ⟨f, _, isF, le, close, _⟩ :=
    ordered.floor_greatest near (Moment.plain_of_whole (nanos.trans adjacent.first.nanos))
  have after : a < f := by rw [Moment.lt_iff_seconds isF.nanos]; omega
  have bf := (Moment.le_iff_seconds adjacent.second.nanos).1 (adjacent.second_le isF after)
  have fx := (Moment.le_iff_seconds isF.nanos).1 le
  omega

theorem ceil_cases (ordered : cal.Ordered g) {t : Instant} (inside : t.InsideBy 160) (plain : ¬ t.InLeapSecond) :
    cal.Boundary g t ∨ ∃ f c, cal.floor g t = .ok f ∧ cal.ceil g t = .ok c ∧ cal.Adjacent g f c ∧ f < t ∧ t < c := by
  obtain ⟨f, floor, isF, le, _, greatest⟩ := ordered.floor_greatest (inside.mono _ (by decide)) plain
  by_cases same : f = t
  · exact .inl (same ▸ isF)
  · obtain ⟨c, adjacent⟩ := ordered.next_adjacent (floor_inside floor inside 80 (by decide)) isF
    have ceil := ceil_of_floor floor adjacent.next
    rw [if_neg same] at ceil
    refine .inr ⟨f, c, floor, ceil, adjacent, lt_of_le_of_ne le same, ?_⟩
    by_contra before
    exact absurd adjacent.later (not_lt.2 (greatest c adjacent.second (not_lt.1 before)))

/-- The ceiling is a boundary at or after an instant, no further than a bucket is long. -/
theorem ceil_spec (ordered : cal.Ordered g) {t : Instant} (inside : t.InsideBy 160) (plain : ¬ t.InLeapSecond) :
    ∃ c, cal.ceil g t = .ok c ∧ cal.Boundary g c ∧ t ≤ c ∧ c.seconds ≤ t.seconds + 86400 * g.reach := by
  have reach := g.reach_bounds
  rcases ordered.ceil_cases inside plain with isT | ⟨f, c, floor, ceil, adjacent, before, after⟩
  · exact ⟨t, isT.ceil, isT, le_refl t, by omega⟩
  · have near := ordered.adjacent_near (floor_inside floor inside 120 (by decide)) adjacent
    have low := (Moment.le_iff_seconds adjacent.first.nanos).1 (le_of_lt before)
    exact ⟨c, ceil, adjacent.second, le_of_lt after, by omega⟩

theorem ceil_least (ordered : cal.Ordered g) {t c b : Instant} (inside : t.InsideBy 160) (plain : ¬ t.InLeapSecond)
    (ceil : cal.ceil g t = .ok c) (boundary : cal.Boundary g b) (since : t ≤ b) : c ≤ b := by
  rcases ordered.ceil_cases inside plain with isT | ⟨f, n, _, isCeil, adjacent, before, _⟩
  · rw [isT.ceil] at ceil
    cases ceil
    exact since
  · rw [isCeil] at ceil
    cases ceil
    exact adjacent.second_le boundary (lt_of_lt_of_le before since)

/-- The boundary before a boundary is the one adjacent to it, which leads back to it. -/
theorem previous_adjacent (ordered : cal.Ordered g) {b : Instant} (inside : b.InsideBy 120)
    (boundary : cal.Boundary g b) :
    ∃ a, cal.previous g b = .ok (some a) ∧ cal.Adjacent g a b ∧ b.seconds ≤ a.seconds + 86400 * g.reach := by
  obtain ⟨before, run, exact⟩ := Moment.addSeconds?_inside (d := -1) inside (by decide) (by decide)
  obtain ⟨seconds, nanos⟩ := exact boundary.plain
  have earlier : before < b := by rw [Moment.lt_def]; omega
  have reach := g.reach_bounds
  have near : before.InsideBy 80 := by rw [Moment.insideBy_def] at *; omega
  obtain ⟨a, floor, isA, le, close, greatest⟩ :=
    ordered.floor_greatest near (Moment.plain_of_whole (nanos.trans boundary.nanos))
  have ab : a < b := lt_of_le_of_lt le earlier
  have last : ∀ c, cal.Boundary g c → c < b → c ≤ a := by
    intro c isC cb
    apply greatest c isC
    rw [Moment.le_iff_seconds isC.nanos]
    rw [Moment.lt_iff_seconds boundary.nanos] at cb
    omega
  have low : a.seconds ≤ before.seconds := (Moment.le_iff_seconds isA.nanos).1 le
  have insideA : a.InsideBy 80 := by rw [Moment.insideBy_def] at *; omega
  obtain ⟨n, adjacent⟩ := ordered.next_adjacent insideA isA
  have same : n = b := by
    apply le_antisymm (adjacent.second_le boundary ab)
    by_contra nb
    exact absurd adjacent.later (not_lt.2 (last n adjacent.second (not_le.1 nb)))
  rw [same] at adjacent
  refine ⟨a, ?_, adjacent, by omega⟩
  simp only [previous, run, floor, bind, Except.bind, pure, Except.pure]

end Ordered

end Calendar

end BucketPlan
