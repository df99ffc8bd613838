import BucketPlan.Proofs.Zone.WallClock

namespace BucketPlan

namespace Moment

/-- Moving a moment outside leap seconds moves its place. -/
theorem plus_inside {m : Moment} {days d : Int} (inside : m.InsideBy days) (plain : ¬ m.InLeapSecond)
    (low : -(86400 * days) < d) (high : d < 86400 * days) :
    ∃ n, m.plus d = .ok n ∧ n.place = m.place + 2000000000 * d ∧ n.seconds = m.seconds + d ∧
      n.nanos = m.nanos := by
  obtain ⟨n, run, exact⟩ := addSeconds?_inside inside low high
  obtain ⟨seconds, nanos⟩ := exact plain
  refine ⟨n, plus_eq_ok_iff.2 run, ?_, seconds, nanos⟩
  rw [place, place, seconds, nanos]
  omega

end Moment

namespace FixedRule

/-- An instant has a local time, and outside leap seconds it is what the clock shows. -/
theorem toLocal_spec (r : FixedRule) {t : Instant} (inside : t.InsideBy 1) :
    ∃ l, r.zone.toLocal t = .ok l ∧ (¬ t.InLeapSecond → l.place = r.shown t.place ∧ l.nanos = t.nanos) := by
  have low := (r.offsetAt t).lower
  have high := (r.offsetAt t).upper
  obtain ⟨l, run, exact⟩ :=
    Moment.addSeconds?_inside (d := (r.offsetAt t).seconds) inside (by omega) (by omega)
  refine ⟨l, Moment.plus_eq_ok_iff.2 run, ?_⟩
  intro plain
  obtain ⟨seconds, nanos⟩ := exact plain
  refine ⟨?_, nanos⟩
  rw [shown, Moment.place, Moment.place, seconds, nanos, offsetAt_seconds, Moment.place]
  omega

section Local
variable {l : WallTime}

theorem instant_spec (o : Offset) (inside : l.InsideBy 1) (plain : ¬ l.InLeapSecond) :
    ∃ t, o.instant l = .ok t ∧ t.place = l.place - 2000000000 * o.seconds ∧ t.nanos = l.nanos := by
  have low := o.lower
  have high := o.upper
  obtain ⟨t, run, place, _, nanos⟩ :=
    Moment.plus_inside (d := -o.seconds) inside plain (by omega) (by omega)
  exact ⟨t, run, by omega, nanos⟩

theorem admits_spec (r : FixedRule) (o : Offset) (inside : l.InsideBy 1) (plain : ¬ l.InLeapSecond) :
    r.admits l o = .ok (decide (r.aheadAt (l.place - 2000000000 * o.seconds) = o.seconds)) := by
  obtain ⟨t, run, place, _⟩ := instant_spec o inside plain
  have same : r.offsetAt t = o ↔ r.aheadAt (l.place - 2000000000 * o.seconds) = o.seconds := by
    rw [Offset.ext_iff, offsetAt_seconds, place]
  simp only [admits, run, same, bind, Except.bind, pure, Except.pure]

theorem offsetFor_spec (r : FixedRule) (inside : l.InsideBy 2) (plain : ¬ l.InLeapSecond) :
    ∃ o, r.zone.offsetFor l = .ok o ∧ o.seconds = r.offsetOn l.place := by
  have near : l.InsideBy 1 := inside.mono _ (by decide)
  obtain ⟨before, run, place, _⟩ :=
    Moment.plus_inside (d := -86400) inside plain (by decide) (by decide)
  have was := offsetAt_seconds r before
  rw [place, show l.place + 2000000000 * -86400 = l.place - 2000000000 * 86400 by omega] at was
  have standard := admits_spec r r.standard near plain
  unfold Zone.offsetFor zone offsetsFor offsetOn
  cases window : r.daylight with
  | none =>
    have always : ∀ n, r.aheadAt n = r.standard.seconds := by intro n; simp only [aheadAt, window]
    simp only [standard, always, decide_true, if_true, bind, Except.bind, pure, Except.pure]
    exact ⟨r.standard, rfl, rfl⟩
  | some w =>
    have daylight := admits_spec r w.offset near plain
    simp only [standard, daylight, bind, Except.bind, pure, Except.pure]
    by_cases isStandard : r.aheadAt (l.place - 2000000000 * r.standard.seconds) = r.standard.seconds
    · by_cases isDaylight : r.aheadAt (l.place - 2000000000 * w.offset.seconds) = w.offset.seconds
      · simp only [isStandard, isDaylight, decide_true, if_true]
        by_cases same : r.standard = w.offset
        · rw [if_pos same]
          exact ⟨r.standard, rfl, by rw [same]; omega⟩
        · rw [if_neg same]
          by_cases less : w.offset.seconds < r.standard.seconds
          · rw [if_pos less]
            simp only
            rw [if_pos (Int.le_of_lt less)]
            exact ⟨r.standard, rfl, by omega⟩
          · rw [if_neg less]
            simp only
            rw [if_pos (by omega)]
            exact ⟨w.offset, rfl, by omega⟩
      · simp only [isStandard, isDaylight, decide_true, decide_false, if_true, if_false]
        exact ⟨r.standard, rfl, rfl⟩
    · by_cases isDaylight : r.aheadAt (l.place - 2000000000 * w.offset.seconds) = w.offset.seconds
      · simp only [isStandard, isDaylight, decide_true, decide_false, if_true, if_false]
        exact ⟨w.offset, rfl, rfl⟩
      · simp only [isStandard, isDaylight, decide_false, if_false, run]
        exact ⟨r.offsetAt before, rfl, was⟩

/-- A local time is read as the instant at its resolved place. -/
theorem ofLocal_spec (r : FixedRule) (inside : l.InsideBy 2) (plain : ¬ l.InLeapSecond) :
    ∃ t, r.zone.ofLocal l = .ok t ∧ t.place = r.resolved l.place ∧ t.nanos = l.nanos := by
  obtain ⟨o, reads, offset⟩ := offsetFor_spec r inside plain
  obtain ⟨t, run, place, nanos⟩ := instant_spec o (inside.mono _ (by decide)) plain
  refine ⟨t, ?_, ?_, nanos⟩
  · rw [Zone.ofLocal, reads]
    exact run
  · rw [place, resolved, offset]

end Local

end FixedRule

end BucketPlan
