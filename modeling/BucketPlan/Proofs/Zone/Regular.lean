import BucketPlan.Granularity
import BucketPlan.Proofs.Zone.WallClock

/-!
A rule is regular for a granularity when its switches fall where the buckets allow
it: in whole seconds, three days apart, by less than a day, over no midnight, and
for buckets cut by the clock at a whole unit or by whole units. The clock of a
regular rule and its reading agree on every midnight (`resolved_midnight_le_iff`).
-/

namespace BucketPlan

namespace Switch

/-- No midnight lies strictly inside the stretch of the wall clock that the switch
    skips or repeats. -/
def SparesMidnights (s : Switch) : Prop :=
  ∀ d : Int, ¬ (s.instant.seconds + min s.before.seconds s.after.seconds < 86400 * d ∧
    86400 * d < s.instant.seconds + max s.before.seconds s.after.seconds)

theorem sparesMidnights_iff {s : Switch} :
    s.SparesMidnights ↔ s.instant.seconds + max s.before.seconds s.after.seconds ≤
      86400 * ((s.instant.seconds + min s.before.seconds s.after.seconds) / 86400 + 1) := by
  constructor
  · intro spares
    have first := spares ((s.instant.seconds + min s.before.seconds s.after.seconds) / 86400 + 1)
    omega
  · intro clear d within
    omega

instance (s : Switch) : Decidable s.SparesMidnights := decidable_of_iff _ sparesMidnights_iff.symm

/-- The offsets differ by whole units, or the clock reads a whole unit at the switch,
    as it went before or as it goes after. -/
def KeepsUnits (unit : Nat) (s : Switch) : Prop :=
  (s.after.seconds - s.before.seconds) % (unit : Int) = 0 ∨
    (s.instant.seconds + s.before.seconds) % (unit : Int) = 0 ∨
    (s.instant.seconds + s.after.seconds) % (unit : Int) = 0

instance (unit : Nat) (s : Switch) : Decidable (s.KeepsUnits unit) := inferInstanceAs (Decidable (_ ∨ _ ∨ _))

/-- A midnight is not skipped before the clock from before the switch reads it, nor
    repeated before the clock from after it does. -/
theorem SparesMidnights.apart {s : Switch} (spares : s.SparesMidnights) (whole : s.instant.nanos = 0) (d : Int) :
    (s.Skips (172800000000000 * d) → 172800000000000 * d - 2000000000 * s.before.seconds = s.instant.place) ∧
      (s.Repeats (172800000000000 * d) → 172800000000000 * d - 2000000000 * s.after.seconds = s.instant.place) := by
  have place := Moment.place_of_whole whole
  have clear := spares d
  unfold Skips Repeats
  omega

end Switch

/-- The switches of the rule fall where the buckets of the granularity allow it. -/
structure FixedRule.Regular (r : FixedRule) (g : Granularity) : Prop where
  lasting : r.Lasting
  narrow : r.Narrow
  wholeSeconds : ∀ s ∈ r.switches, s.instant.nanos = 0
  sparesMidnights : ∀ s ∈ r.switches, s.SparesMidnights
  keepsUnits : ∀ unit, g.unitSeconds? = some unit → ∀ s ∈ r.switches, s.KeepsUnits unit

namespace FixedRule

/-- The clock of a regular rule has reached a midnight from the place on at which the
    zone reads it. -/
theorem resolved_midnight_le_iff {r : FixedRule} {g : Granularity} (regular : r.Regular g) {d n : Int} :
    r.resolved (172800000000000 * d) ≤ n ↔ 172800000000000 * d ≤ r.shown n := by
  have apart : ∀ s ∈ r.switches, _ := fun s member =>
    (regular.sparesMidnights s member).apart (regular.wholeSeconds s member) d
  constructor
  · intro le
    by_contra early
    obtain ⟨s, member, repeats, since, before⟩ := (resolved_le_iff regular.lasting (Int.not_le.1 early)).1 le
    have at_switch := (apart s member).2 repeats
    omega
  · intro reached
    by_contra late
    obtain ⟨s, member, skips, since, before⟩ := (lt_resolved_iff regular.lasting reached).1 (Int.not_le.1 late)
    have at_switch := (apart s member).1 skips
    omega

instance (r : FixedRule) : Decidable r.Lasting := inferInstanceAs (Decidable (∀ w ∈ r.daylight, w.LastsThreeDays))

instance (r : FixedRule) : Decidable r.Narrow :=
  inferInstanceAs (Decidable (∀ w ∈ r.daylight, |w.offset.seconds - r.standard.seconds| < 86400))

instance (r : FixedRule) (g : Granularity) : Decidable (r.Regular g) :=
  decidable_of_iff
    (r.Lasting ∧ r.Narrow ∧ (∀ s ∈ r.switches, s.instant.nanos = 0) ∧ (∀ s ∈ r.switches, s.SparesMidnights) ∧
      ∀ unit ∈ g.unitSeconds?, ∀ s ∈ r.switches, s.KeepsUnits unit)
    ⟨fun ⟨lasting, narrow, whole, spares, keeps⟩ => ⟨lasting, narrow, whole, spares, keeps⟩,
      fun regular => ⟨regular.lasting, regular.narrow, regular.wholeSeconds, regular.sparesMidnights,
        regular.keepsUnits⟩⟩

/-- The clock of New York in 2024, an hour ahead from 10 March to 3 November. -/
def newYork2024 : FixedRule where
  id := "America/New_York"
  standard := ⟨-18000, by decide, by decide⟩
  daylight := some {
    offset := ⟨-14400, by decide, by decide⟩
    start := (Moment.ofSeconds? 1710054000).get (by decide)
    stop := (Moment.ofSeconds? 1730613600).get (by decide) }

theorem regular_newYork2024 (g : Granularity) : newYork2024.Regular g := by
  cases g <;> decide

/-- The clock of Lord Howe Island around the turn to 2024, half an hour ahead from 1 October
    to 7 April. -/
def lordHowe2024 : FixedRule where
  id := "Australia/Lord_Howe"
  standard := ⟨37800, by decide, by decide⟩
  daylight := some {
    offset := ⟨39600, by decide, by decide⟩
    start := (Moment.ofSeconds? 1696087800).get (by decide)
    stop := (Moment.ofSeconds? 1712415600).get (by decide) }

/-- Both switches are half hours, at whole hours of the clock from before. -/
theorem regular_lordHowe2024 (g : Granularity) : lordHowe2024.Regular g := by
  cases g <;> decide

end FixedRule

end BucketPlan
