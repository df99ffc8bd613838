import BucketPlan.Zone.FixedRule
import BucketPlan.Proofs.Moment.Line
import Mathlib.Algebra.Order.Group.Unbundled.Abs
import Mathlib.Algebra.Order.Group.Int

/-!
The clock of a rule on the line of moments: what it shows at a place (`shown`), and
the place at which the zone takes it to show something (`resolved`). Where the
window of the rule lasts three days its two switches are too far apart to meet, so
the place of a skipped time is the one that the clock from before the switch would
give (`le_shown_resolved`). The clock and the zone's reading of it disagree in two
ways only: a place is read later than the clock has passed it when a switch skipped
it (`lt_resolved_iff`), and earlier than the clock shows it for good when a switch
repeats it (`resolved_le_iff`).
-/

namespace BucketPlan

/-! ## Switches -/

/-- A change of the offset. -/
structure Switch where
  instant : Instant
  before : Offset
  after : Offset
deriving DecidableEq

namespace Switch

/-- A place of the wall clock that the switch sets forward over: the clock from
    before reaches it only after the switch, the clock from after is past it. -/
def Skips (s : Switch) (n : Int) : Prop :=
  n - 2000000000 * s.after.seconds < s.instant.place ∧ s.instant.place ≤ n - 2000000000 * s.before.seconds

instance (s : Switch) (n : Int) : Decidable (s.Skips n) := inferInstanceAs (Decidable (_ ∧ _))

/-- A place of the wall clock that the switch sets back over: the clock from before
    reached it before the switch, the clock from after is not there yet. -/
def Repeats (s : Switch) (n : Int) : Prop :=
  n - 2000000000 * s.before.seconds < s.instant.place ∧ s.instant.place ≤ n - 2000000000 * s.after.seconds

end Switch

/-- The window lasts three days or longer. -/
def Daylight.LastsThreeDays (w : Daylight) : Prop := 3 * 86400 * 1000000000 ≤ w.stop.nanosSince w.start

instance (w : Daylight) : Decidable w.LastsThreeDays := inferInstanceAs (Decidable (_ ≤ _))

/-- However leap seconds count, the ends of a lasting window are almost three days
    apart on the line. -/
theorem Daylight.place_of_lasting {w : Daylight} (lasting : w.LastsThreeDays) :
    w.start.place + 259198 * 2000000000 < w.stop.place := by
  have startNanos := w.start.nanos_lt
  have stopNanos := w.stop.nanos_lt
  unfold LastsThreeDays Moment.nanosSince Moment.date Moment.secondOfDay Moment.InLeapSecond at lasting
  unfold Moment.place
  simp only at lasting
  split at lasting
  · omega
  · split at lasting
    · omega
    · omega

namespace FixedRule

/-- The changes of the offset, in the order of time. -/
def switches (r : FixedRule) : List Switch :=
  match r.daylight with
  | some w => [⟨w.start, r.standard, w.offset⟩, ⟨w.stop, w.offset, r.standard⟩]
  | none => []

/-- There is no window, or it lasts three days or longer. -/
def Lasting (r : FixedRule) : Prop := ∀ w, r.daylight = some w → w.LastsThreeDays

/-! ## What the clock shows -/

/-- The offset in seconds at a place of the line. -/
def aheadAt (r : FixedRule) (n : Int) : Int :=
  match r.daylight with
  | some w => if w.start.place ≤ n ∧ n < w.stop.place then w.offset.seconds else r.standard.seconds
  | none => r.standard.seconds

/-- The place that the wall clock shows at a place of the line. -/
def shown (r : FixedRule) (n : Int) : Int := n + 2000000000 * r.aheadAt n

theorem offsetAt_seconds (r : FixedRule) (t : Instant) : (r.offsetAt t).seconds = r.aheadAt t.place := by
  unfold offsetAt aheadAt
  cases r.daylight with
  | none => rfl
  | some w =>
    simp only [Moment.le_iff_place, Moment.lt_iff_place]
    split <;> rfl

theorem aheadAt_bounds (r : FixedRule) (n : Int) : -86400 < r.aheadAt n ∧ r.aheadAt n < 86400 := by
  unfold aheadAt
  split
  · split
    · exact ⟨Offset.lower _, Offset.upper _⟩
    · exact ⟨Offset.lower _, Offset.upper _⟩
  · exact ⟨Offset.lower _, Offset.upper _⟩

/-! ## How the zone reads the clock -/

/-- The offset in seconds that the zone reads a place of the wall clock with. -/
def offsetOn (r : FixedRule) (n : Int) : Int :=
  match r.daylight with
  | none => r.standard.seconds
  | some w =>
    if r.aheadAt (n - 2000000000 * r.standard.seconds) = r.standard.seconds then
      if r.aheadAt (n - 2000000000 * w.offset.seconds) = w.offset.seconds then
        max r.standard.seconds w.offset.seconds
      else r.standard.seconds
    else if r.aheadAt (n - 2000000000 * w.offset.seconds) = w.offset.seconds then w.offset.seconds
    else r.aheadAt (n - 2000000000 * 86400)

/-- The place of the line at which the zone takes the wall clock to show a place. -/
def resolved (r : FixedRule) (n : Int) : Int := n - 2000000000 * r.offsetOn n

theorem offsetOn_bounds (r : FixedRule) (n : Int) : -86400 < r.offsetOn n ∧ r.offsetOn n < 86400 := by
  have before := r.aheadAt_bounds (n - 2000000000 * 86400)
  have low := r.standard.lower
  have high := r.standard.upper
  unfold offsetOn
  split
  · exact ⟨low, high⟩
  · next w _ =>
    have lowW := w.offset.lower
    have highW := w.offset.upper
    split_ifs <;> omega

section Window
variable {r : FixedRule} {w : Daylight}

theorem aheadAt_window (window : r.daylight = some w) (n : Int) :
    (w.start.place ≤ n ∧ n < w.stop.place ∧ r.aheadAt n = w.offset.seconds) ∨
      ((n < w.start.place ∨ w.stop.place ≤ n) ∧ r.aheadAt n = r.standard.seconds) := by
  simp only [aheadAt, window]
  split
  · next within => exact .inl ⟨within.1, within.2, rfl⟩
  · next outside => exact .inr ⟨by omega, rfl⟩

theorem window_bounds (lasting : r.Lasting) (window : r.daylight = some w) :
    w.start.place + 259198 * 2000000000 < w.stop.place ∧ w.offset.seconds < r.standard.seconds + 172800 ∧
      r.standard.seconds < w.offset.seconds + 172800 := by
  have low := r.standard.lower
  have high := r.standard.upper
  have lowW := w.offset.lower
  have highW := w.offset.upper
  exact ⟨Daylight.place_of_lasting (lasting w window), by omega, by omega⟩

/-- How a place of the wall clock is read: as standard time where that gives an instant
    outside the window, as daylight time where that gives one inside, the greater offset
    where both do, and a place that a switch skipped as the clock went before it. -/
theorem offsetOn_window (lasting : r.Lasting) (window : r.daylight = some w) (n : Int) :
    let standard := n - 2000000000 * r.standard.seconds
    let daylight := n - 2000000000 * w.offset.seconds
    ((standard < w.start.place ∨ w.stop.place ≤ standard) ∧
        (daylight < w.start.place ∨ w.stop.place ≤ daylight ∨ w.offset.seconds ≤ r.standard.seconds) ∧
        r.offsetOn n = r.standard.seconds) ∨
      (w.start.place ≤ daylight ∧ daylight < w.stop.place ∧
        (w.start.place ≤ standard ∧ standard < w.stop.place ∨ r.standard.seconds ≤ w.offset.seconds) ∧
        r.offsetOn n = w.offset.seconds) ∨
      (daylight < w.start.place ∧ w.start.place ≤ standard ∧ r.offsetOn n = r.standard.seconds) ∨
      (standard < w.stop.place ∧ w.stop.place ≤ daylight ∧ r.offsetOn n = w.offset.seconds) := by
  have long := Daylight.place_of_lasting (lasting w window)
  have standard := aheadAt_window window (n - 2000000000 * r.standard.seconds)
  have daylight := aheadAt_window window (n - 2000000000 * w.offset.seconds)
  have dayBefore := aheadAt_window window (n - 2000000000 * 86400)
  have low := r.standard.lower
  have high := r.standard.upper
  have lowW := w.offset.lower
  have highW := w.offset.upper
  simp only [offsetOn, window]
  split_ifs <;> omega

theorem exists_switch_window (window : r.daylight = some w) {p : Switch → Prop} :
    (∃ s ∈ r.switches, p s) ↔ p ⟨w.start, r.standard, w.offset⟩ ∨ p ⟨w.stop, w.offset, r.standard⟩ := by
  simp [switches, window]

end Window

/-- The clock shows a place or more when the zone takes it to show the place. -/
theorem le_shown_resolved {r : FixedRule} (lasting : r.Lasting) (n : Int) : n ≤ r.shown (r.resolved n) := by
  unfold shown resolved
  cases window : r.daylight with
  | none => simp only [aheadAt, offsetOn, window]; omega
  | some w =>
    have there := aheadAt_window window (n - 2000000000 * r.offsetOn n)
    rcases offsetOn_window lasting window n with ⟨_, _, eq⟩ | ⟨_, _, _, eq⟩ | ⟨_, _, eq⟩ | ⟨_, _, eq⟩ <;> omega

/-- The offsets of the window and outside it differ by less than a day. -/
def Narrow (r : FixedRule) : Prop :=
  ∀ w, r.daylight = some w → |w.offset.seconds - r.standard.seconds| < 86400

/-- With offsets that differ by less than a day the clock shows less than a day more
    than it is taken to show. -/
theorem shown_resolved_lt {r : FixedRule} (lasting : r.Lasting) (narrow : r.Narrow) (n : Int) :
    r.shown (r.resolved n) < n + 2000000000 * 86400 := by
  unfold shown resolved
  cases window : r.daylight with
  | none => simp only [aheadAt, offsetOn, window]; omega
  | some w =>
    obtain ⟨low, high⟩ := abs_lt.1 (narrow w window)
    have there := aheadAt_window window (n - 2000000000 * r.offsetOn n)
    rcases offsetOn_window lasting window n with ⟨_, _, eq⟩ | ⟨_, _, _, eq⟩ | ⟨_, _, eq⟩ | ⟨_, _, eq⟩ <;> omega

/-- A place of the wall clock that has been reached at `x` is read as a later place
    than `x` when a switch skipped it, as long as the clock from before the switch
    would not have reached it. -/
theorem lt_resolved_iff {r : FixedRule} (lasting : r.Lasting) {n x : Int} (reached : n ≤ r.shown x) :
    x < r.resolved n ↔
      ∃ s ∈ r.switches, s.Skips n ∧ s.instant.place ≤ x ∧ x < n - 2000000000 * s.before.seconds := by
  unfold shown at reached
  unfold resolved
  cases window : r.daylight with
  | none =>
    simp only [aheadAt, window] at reached
    simp only [offsetOn, switches, window, List.not_mem_nil, false_and, exists_false, iff_false]
    omega
  | some w =>
    rw [exists_switch_window window]
    have bounds := window_bounds lasting window
    have now := aheadAt_window window x
    unfold Switch.Skips
    simp only
    rcases offsetOn_window lasting window n with ⟨_, _, eq⟩ | ⟨_, _, _, eq⟩ | ⟨_, _, eq⟩ | ⟨_, _, eq⟩ <;> omega

/-- A place of the wall clock that is not reached at `x` is read as an earlier place
    than `x` when a switch repeats it and the clock has shown it before the switch. -/
theorem resolved_le_iff {r : FixedRule} (lasting : r.Lasting) {n x : Int} (ahead : r.shown x < n) :
    r.resolved n ≤ x ↔
      ∃ s ∈ r.switches, s.Repeats n ∧ s.instant.place ≤ x ∧ x < n - 2000000000 * s.after.seconds := by
  unfold shown at ahead
  unfold resolved
  cases window : r.daylight with
  | none =>
    simp only [aheadAt, window] at ahead
    simp only [offsetOn, switches, window, List.not_mem_nil, false_and, exists_false, iff_false]
    omega
  | some w =>
    rw [exists_switch_window window]
    have bounds := window_bounds lasting window
    have now := aheadAt_window window x
    unfold Switch.Repeats
    simp only
    rcases offsetOn_window lasting window n with ⟨_, _, eq⟩ | ⟨_, _, _, eq⟩ | ⟨_, _, eq⟩ | ⟨_, _, eq⟩ <;> omega

/-- What the clock shows up to a repeated place is read as before the switch. -/
theorem resolved_lt_of_repeats {r : FixedRule} (lasting : r.Lasting) {m n : Int} (le : m ≤ n) {s : Switch}
    (member : s ∈ r.switches) (repeats : s.Repeats n) : r.resolved m < s.instant.place := by
  unfold resolved
  unfold Switch.Repeats at repeats
  cases window : r.daylight with
  | none => simp [switches, window] at member
  | some w =>
    have bounds := window_bounds lasting window
    have reading := offsetOn_window lasting window m
    simp only [switches, window, List.mem_cons, List.not_mem_nil, or_false] at member
    rcases member with rfl | rfl
    · simp only at repeats ⊢
      rcases reading with ⟨_, _, eq⟩ | ⟨_, _, _, eq⟩ | ⟨_, _, eq⟩ | ⟨_, _, eq⟩ <;> omega
    · simp only at repeats ⊢
      rcases reading with ⟨_, _, eq⟩ | ⟨_, _, _, eq⟩ | ⟨_, _, eq⟩ | ⟨_, _, eq⟩ <;> omega

end FixedRule

end BucketPlan
