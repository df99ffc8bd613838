import BucketPlan.Moment.Overflow
import Mathlib.Order.Defs.LinearOrder

/-!
Every moment has a place on one line of integers, where a second takes 2·10⁹
places and those of its leap second come last, so the order of moments is the
order of their places (`lt_iff_place`, `le_iff_place`). Away from the ends of the
representable years the moves by whole seconds have an answer
(`addSeconds?_inside`).
-/

namespace BucketPlan.Moment

/-- Where a moment lies on the line. -/
def place (m : Moment) : Int := m.seconds * 2000000000 + m.nanos

theorem lt_iff_place {a b : Moment} : a < b ↔ a.place < b.place := by
  have la := a.nanos_lt
  have lb := b.nanos_lt
  rw [lt_def, place, place]
  omega

theorem le_iff_place {a b : Moment} : a ≤ b ↔ a.place ≤ b.place := by
  rw [le_def, lt_iff_place, Int.not_lt]

theorem place_injective {a b : Moment} (same : a.place = b.place) : a = b := by
  have la := a.nanos_lt
  have lb := b.nanos_lt
  unfold place at same
  exact ext_parts (by omega) (by omega)

/-- Two moments at whole seconds are one when their seconds agree. -/
theorem eq_of_seconds {a b : Moment} (wholeA : a.nanos = 0) (wholeB : b.nanos = 0)
    (same : a.seconds = b.seconds) : a = b := ext_parts same (wholeA.trans wholeB.symm)

theorem place_of_whole {m : Moment} (whole : m.nanos = 0) : m.place = m.seconds * 2000000000 := by
  rw [place, whole]; omega

theorem plain_of_whole {m : Moment} (whole : m.nanos = 0) : ¬ m.InLeapSecond := by
  rw [InLeapSecond, whole]
  decide

/-- Whole seconds are not passed by what lies within their second. -/
theorem le_iff_seconds {a b : Moment} (whole : a.nanos = 0) : a ≤ b ↔ a.seconds ≤ b.seconds := by
  have lb := b.nanos_lt
  rw [le_iff_place, place, place, whole]
  omega

/-- A moment is before a whole second when its second is. -/
theorem lt_iff_seconds {a b : Moment} (whole : b.nanos = 0) : a < b ↔ a.seconds < b.seconds := by
  rw [lt_def, whole]
  omega

theorem seconds_le {a b : Moment} (le : a ≤ b) : a.seconds ≤ b.seconds := by
  rw [le_def, lt_def] at le
  omega

instance : LinearOrder Moment where
  le_refl _ := le_iff_place.2 (Int.le_refl _)
  le_trans _ _ _ ab bc := le_iff_place.2 (Int.le_trans (le_iff_place.1 ab) (le_iff_place.1 bc))
  le_antisymm _ _ ab ba := place_injective (Int.le_antisymm (le_iff_place.1 ab) (le_iff_place.1 ba))
  le_total a b := (Int.le_total a.place b.place).imp le_iff_place.2 le_iff_place.2
  lt_iff_le_not_ge a b := by rw [lt_iff_place, le_iff_place, le_iff_place]; omega
  toDecidableLE := inferInstance
  toDecidableLT := inferInstance
  toDecidableEq := inferInstance

/-- A move changes the seconds by as many, and within a leap second by one more at most. -/
theorem addSeconds?_near {m n : Moment} {d : Int} (run : m.addSeconds? d = some n) :
    m.seconds + d ≤ n.seconds ∧ n.seconds ≤ m.seconds + d + 1 := by
  unfold addSeconds? at run
  split_ifs at run with still plain later
  · cases run
    omega
  · have parts := ofParts?_eq_some_iff.1 run
    omega
  · have parts := ofParts?_eq_some_iff.1 run
    omega
  · have parts := ofParts?_eq_some_iff.1 run
    omega

/-- Between whole seconds no leap second counts. -/
theorem secondsSince_of_whole {a b : Moment} (wholeA : a.nanos = 0) (wholeB : b.nanos = 0) :
    a.secondsSince b = a.seconds - b.seconds := by
  have nanos : a.nanosSince b = (a.seconds - b.seconds) * 1000000000 := by
    simp only [nanosSince, InLeapSecond, wholeA, wholeB, date, secondOfDay]
    omega
  rw [secondsSince, nanos, Int.mul_tdiv_cancel _ (by decide)]

/-! ## Away from the ends -/

theorem seconds_bounds (m : Moment) : -8334601228800 ≤ m.seconds ∧ m.seconds ≤ 8210266876799 :=
  ⟨m.first_le, m.le_last⟩

/-- The moment is at least that many days away from both ends of the representable
    years. -/
def InsideBy (days : Int) (m : Moment) : Prop :=
  firstSecond + 86400 * days ≤ m.seconds ∧ m.seconds ≤ lastSecond - 86400 * days

instance (days : Int) (m : Moment) : Decidable (m.InsideBy days) := inferInstanceAs (Decidable (_ ∧ _))

/-- The length in days of the first 25 representable years, and of the last 25. -/
def quarterCentury : Int := 9131

example : firstDay + quarterCentury = (Civil.mk (-262118) 1 1).dayNumber := by decide

example : lastDay - quarterCentury = (Civil.mk 262117 12 31).dayNumber := by decide

theorem insideBy_def {days : Int} {m : Moment} :
    m.InsideBy days ↔ -8334601228800 + 86400 * days ≤ m.seconds ∧
      m.seconds ≤ 8210266876799 - 86400 * days := Iff.rfl

theorem InsideBy.mono {days : Int} {m : Moment} (inside : m.InsideBy days) (fewer : Int)
    (less : fewer ≤ days) : m.InsideBy fewer := by
  rw [insideBy_def] at *
  omega

/-- What lies between two moments away from the ends is as far away from them. -/
theorem InsideBy.between {days : Int} {a b m : Moment} (insideA : a.InsideBy days) (insideB : b.InsideBy days)
    (am : a ≤ m) (mb : m ≤ b) : m.InsideBy days := by
  rw [insideBy_def] at *
  rw [le_def, lt_def] at am mb
  omega

/-- A move has an answer when the second that it leads to is representable, and for a leap
    second the one after it too. -/
theorem exists_addSeconds? {m : Moment} {d : Int} (low : firstSecond ≤ m.seconds + d)
    (high : m.seconds + d ≤ lastSecond) (room : m.InLeapSecond → m.seconds + d < lastSecond) :
    ∃ n, m.addSeconds? d = some n := by
  have bound := m.nanos_lt
  unfold InLeapSecond at room
  have built : ∀ (s : Int) (n : Nat), firstSecond ≤ s → s ≤ lastSecond → n < 1000000000 →
      ∃ k, ofParts? s n = some k := by
    intro s n lowS highS small
    exact ⟨⟨s, n, lowS, highS, by omega, by omega⟩, ofParts?_eq_some_iff.2 ⟨rfl, rfl⟩⟩
  unfold addSeconds?
  split_ifs with still plain later
  · exact ⟨m, rfl⟩
  · exact built _ _ low high plain
  · exact built _ _ low high (by omega)
  · exact built _ _ (by omega) (by omega) (by omega)

/-- Outside leap seconds there is no move to before the first second. -/
theorem addSeconds?_eq_none {m : Moment} {d : Int} (plain : ¬ m.InLeapSecond)
    (below : m.seconds + d < firstSecond) : m.addSeconds? d = none := by
  cases run : m.addSeconds? d with
  | none => rfl
  | some n =>
    have seconds := ((addSeconds?_eq_some_iff (Nat.lt_of_not_le plain)).1 run).1
    exact absurd n.first_le (by omega)

/-- Away from the ends a move by at most so many days has an answer; outside leap
    seconds only the seconds change. -/
theorem addSeconds?_inside {m : Moment} {days d : Int} (inside : m.InsideBy days)
    (low : -(86400 * days) < d) (high : d < 86400 * days) :
    ∃ n, m.addSeconds? d = some n ∧ (¬ m.InLeapSecond → n.seconds = m.seconds + d ∧ n.nanos = m.nanos) := by
  obtain ⟨lowM, highM⟩ := inside
  obtain ⟨n, run⟩ := exists_addSeconds? (m := m) (d := d) (by omega) (by omega) (fun _ => by omega)
  exact ⟨n, run, fun plain => (addSeconds?_eq_some_iff (Nat.lt_of_not_le plain)).1 run⟩

end BucketPlan.Moment
