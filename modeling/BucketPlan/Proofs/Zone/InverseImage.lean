import BucketPlan.Proofs.Runs
import BucketPlan.Proofs.Zone.LocalTime
import BucketPlan.Proofs.Zone.Regular
import Mathlib.Data.Set.Card
import Mathlib.Order.Bounds.Basic

/-!
The offsets listed for a local time are those that admit it, the greater one first
(`offsetsFor_lists`). An offset admits a local time when the clock shows that time at the
instant it gives, so the lookup is the inverse image of the clock: the listed offsets lead
to the instants that show the local time and to no others, and the zone reads it as the
first of them (`offsetsFor_inverse`). This holds of every window, however short.
-/

namespace BucketPlan

theorem Moment.plus_eq_ok_comm {m n : Moment} {d : Int} (plainM : ¬ m.InLeapSecond) (plainN : ¬ n.InLeapSecond) :
    m.plus d = .ok n ↔ n.plus (-d) = .ok m := by
  rw [plus_eq_ok_iff, plus_eq_ok_iff, addSeconds?_eq_some_iff (Nat.lt_of_not_le plainM),
    addSeconds?_eq_some_iff (Nat.lt_of_not_le plainN)]
  omega

theorem Moment.plain_of_plus {m n : Moment} {d : Int} (plain : ¬ m.InLeapSecond) (run : m.plus d = .ok n) :
    ¬ n.InLeapSecond := by
  rw [plus_eq_ok_iff, addSeconds?_eq_some_iff (Nat.lt_of_not_le plain)] at run
  rwa [InLeapSecond, run.2]

/-! ## The inverse of a clock -/

/-- The instants outside leap seconds at which the clock shows a local time. -/
def Zone.instantsOf (z : Zone) (l : WallTime) : Set Instant := {t | ¬ t.InLeapSecond ∧ z.toLocal t = .ok l}

/-- The offsets lead to the instants at which the clock shows the local time, the earlier one
    first, there are as many of one as of the other, and the zone reads the local time as the
    earliest of these instants. -/
structure Zone.Inverts (z : Zone) (l : WallTime) (offsets : LocalOffsets) : Prop where
  defined : ∀ o ∈ offsets.toList, ∃ t, o.instant l = .ok t
  instants : z.instantsOf l = {t | ∃ o ∈ offsets.toList, o.instant l = .ok t}
  skipped : offsets = .skipped ↔ (z.instantsOf l).encard = 0
  once : (∃ o, offsets = .once o) ↔ (z.instantsOf l).encard = 1
  twice : (∃ a b, offsets = .twice a b) ↔ (z.instantsOf l).encard = 2
  earlierFirst : ∀ a b, offsets = .twice a b → ∃ s t, a.instant l = .ok s ∧ b.instant l = .ok t ∧ s < t
  earliest : (z.instantsOf l).Nonempty → ∃ t, z.ofLocal l = .ok t ∧ IsLeast (z.instantsOf l) t

namespace Zone

variable {z : Zone} {l : WallTime}

theorem inverts_skipped (none : z.instantsOf l = ∅) : z.Inverts l .skipped where
  defined := by simp [LocalOffsets.toList]
  instants := by simp [none, LocalOffsets.toList]
  skipped := by simp [none]
  once := by simp [none]
  twice := by simp [none]
  earlierFirst := by simp
  earliest := by simp [none]

theorem inverts_once {o : Offset} {t : Instant} (reads : z.offsetsFor l = .ok (.once o)) (run : o.instant l = .ok t)
    (one : z.instantsOf l = {t}) : z.Inverts l (.once o) where
  defined := by simp [LocalOffsets.toList, run]
  instants := by
    ext x
    simp [one, LocalOffsets.toList, run, eq_comm]
  skipped := by simp [one]
  once := by simp [one]
  twice := by simp [one]
  earlierFirst := by simp
  earliest := by
    intro _
    refine ⟨t, ?_, by rw [one]; exact isLeast_singleton⟩
    simp only [ofLocal, offsetFor, reads, run, bind, Except.bind, pure, Except.pure]

theorem inverts_twice {a b : Offset} {s t : Instant} (reads : z.offsetsFor l = .ok (.twice a b))
    (first : a.instant l = .ok s) (second : b.instant l = .ok t) (greater : b.seconds < a.seconds) (earlier : s < t)
    (two : z.instantsOf l = {s, t}) : z.Inverts l (.twice a b) := by
  have count : (z.instantsOf l).encard = 2 := by
    rw [two]
    exact Set.encard_pair (ne_of_lt earlier)
  exact {
    defined := by simp [LocalOffsets.toList, first, second]
    instants := by
      ext x
      simp [two, LocalOffsets.toList, first, second, eq_comm]
    skipped := by simp [count]
    once := by simp [count]
    twice := by simp [count]
    earlierFirst := by
      rintro _ _ ⟨⟩
      exact ⟨s, t, first, second, earlier⟩
    earliest := by
      intro _
      refine ⟨s, ?_, ?_⟩
      · simp only [ofLocal, offsetFor, reads, if_pos (Int.le_of_lt greater), first, bind, Except.bind, pure, Except.pure]
      · rw [two]
        refine ⟨Set.mem_insert s {t}, ?_⟩
        rintro x (rfl | rfl)
        · exact le_refl x
        · exact le_of_lt earlier }

end Zone

namespace FixedRule

variable {r : FixedRule} {l : WallTime}

theorem offsetAt_cases (r : FixedRule) (t : Instant) :
    r.offsetAt t = r.standard ∨ ∃ w, r.daylight = some w ∧ r.offsetAt t = w.offset := by
  unfold offsetAt
  cases r.daylight with
  | none => exact .inl rfl
  | some w =>
    by_cases within : w.start ≤ t ∧ t < w.stop
    · exact .inr ⟨w, rfl, if_pos within⟩
    · exact .inl (if_neg within)

theorem admits_eq_true_iff {o : Offset} : r.admits l o = .ok true ↔ ∃ t, o.instant l = .ok t ∧ r.offsetAt t = o := by
  simp only [admits, bind_eq_ok_iff, pure_eq_ok_iff, decide_eq_true_eq]

theorem offset_of_admits {o : Offset} (admitted : r.admits l o = .ok true) :
    o = r.standard ∨ ∃ w, r.daylight = some w ∧ o = w.offset := by
  obtain ⟨t, _, rfl⟩ := admits_eq_true_iff.1 admitted
  exact r.offsetAt_cases t

theorem mem_instantsOf_iff (plain : ¬ l.InLeapSecond) {t : Instant} :
    t ∈ r.zone.instantsOf l ↔ ∃ o, r.admits l o = .ok true ∧ o.instant l = .ok t := by
  constructor
  · rintro ⟨plainT, shows⟩
    have back := (Moment.plus_eq_ok_comm plainT plain).1 shows
    exact ⟨r.offsetAt t, admits_eq_true_iff.2 ⟨t, back, rfl⟩, back⟩
  · rintro ⟨o, admitted, run⟩
    obtain ⟨_, same, has⟩ := admits_eq_true_iff.1 admitted
    obtain rfl := Except.ok.inj (same.symm.trans run)
    have plainT := Moment.plain_of_plus plain run
    refine ⟨plainT, (Moment.plus_eq_ok_comm plainT plain).2 ?_⟩
    rw [show r.zone.offsetAt _ = o from has]
    exact run

theorem admits_own_iff {s d : Bool} (standard : r.admits l r.standard = .ok s)
    (daylight : ∀ w, r.daylight = some w → r.admits l w.offset = .ok d) {o : Offset} :
    r.admits l o = .ok true ↔ o = r.standard ∧ s = true ∨ (∃ w, r.daylight = some w ∧ o = w.offset) ∧ d = true := by
  constructor
  · intro admitted
    rcases offset_of_admits admitted with rfl | ⟨w, window, rfl⟩
    · exact .inl ⟨rfl, Except.ok.inj (standard.symm.trans admitted)⟩
    · exact .inr ⟨⟨w, window, rfl⟩, Except.ok.inj ((daylight w window).symm.trans admitted)⟩
  · rintro (⟨rfl, rfl⟩ | ⟨⟨w, window, rfl⟩, rfl⟩)
    · exact standard
    · exact daylight w window

/-- The offsets that admit a local time are listed, the greater one first. -/
theorem offsetsFor_lists (r : FixedRule) (inside : l.InsideBy 1) (plain : ¬ l.InLeapSecond) :
    ∃ offsets, r.offsetsFor l = .ok offsets ∧ (∀ o, o ∈ offsets.toList ↔ r.admits l o = .ok true) ∧
      offsets.toList.Pairwise fun a b => b.seconds < a.seconds := by
  have standard := admits_spec r r.standard inside plain
  generalize decide (r.aheadAt (l.place - 2000000000 * r.standard.seconds) = r.standard.seconds) = s at standard
  cases window : r.daylight with
  | none =>
    have own : ∀ o, r.admits l o = .ok true ↔ o = r.standard ∧ s = true := by
      intro o
      simp [admits_own_iff (d := false) standard (by simp [window])]
    simp only [own, offsetsFor, standard, window, bind, Except.bind, pure, Except.pure]
    cases s with
    | false => exact ⟨.skipped, rfl, by simp [LocalOffsets.toList], .nil⟩
    | true => exact ⟨.once r.standard, rfl, by simp [LocalOffsets.toList], List.pairwise_singleton _ _⟩
  | some w =>
    have daylight := admits_spec r w.offset inside plain
    generalize decide (r.aheadAt (l.place - 2000000000 * w.offset.seconds) = w.offset.seconds) = d at daylight
    have own : ∀ o, r.admits l o = .ok true ↔ o = r.standard ∧ s = true ∨ o = w.offset ∧ d = true := by
      intro o
      simp [admits_own_iff standard (by simpa [window] using daylight), window]
    simp only [own, offsetsFor, standard, daylight, window, bind, Except.bind, pure, Except.pure]
    cases s with
    | false =>
      cases d with
      | false => exact ⟨.skipped, rfl, by simp [LocalOffsets.toList], .nil⟩
      | true => exact ⟨.once w.offset, rfl, by simp [LocalOffsets.toList], List.pairwise_singleton _ _⟩
    | true =>
      cases d with
      | false => exact ⟨.once r.standard, rfl, by simp [LocalOffsets.toList], List.pairwise_singleton _ _⟩
      | true =>
        -- Two offsets that are the same are listed once.
        by_cases same : r.standard = w.offset
        · refine ⟨.once r.standard, congrArg Except.ok (if_pos same), ?_, List.pairwise_singleton _ _⟩
          simp [LocalOffsets.toList, same]
        · have apart : r.standard.seconds ≠ w.offset.seconds := fun seconds => same (Offset.ext seconds)
          by_cases less : w.offset.seconds < r.standard.seconds
          · refine ⟨.twice r.standard w.offset, ?_, by simp [LocalOffsets.toList], List.pairwise_pair.2 less⟩
            simp only [same, less, if_true, if_false]
          · refine ⟨.twice w.offset r.standard, ?_, by simp [LocalOffsets.toList, or_comm], ?_⟩
            · simp only [same, less, if_false]
            · exact List.pairwise_pair.2 (lt_of_le_of_ne (Int.not_lt.1 less) apart)

/-- The lookup of a local time is the inverse image of the clock: the listed offsets lead to
    the instants that show it, the earlier one first, and the zone reads it as the first. -/
theorem offsetsFor_inverse (r : FixedRule) {l : WallTime} (inside : l.InsideBy 1) (plain : ¬ l.InLeapSecond) :
    ∃ offsets, r.zone.offsetsFor l = .ok offsets ∧ r.zone.Inverts l offsets := by
  obtain ⟨offsets, run, listed, order⟩ := offsetsFor_lists r inside plain
  have reads : r.zone.offsetsFor l = .ok offsets := run
  have instants : ∀ t, t ∈ r.zone.instantsOf l ↔ ∃ o ∈ offsets.toList, o.instant l = .ok t := by
    intro t
    simp only [mem_instantsOf_iff plain, listed]
  refine ⟨offsets, reads, ?_⟩
  cases offsets with
  | skipped =>
    refine Zone.inverts_skipped (Set.eq_empty_of_forall_notMem fun t => ?_)
    simp [instants, LocalOffsets.toList]
  | once o =>
    obtain ⟨t, run, _⟩ := instant_spec o inside plain
    refine Zone.inverts_once reads run (Set.ext fun x => ?_)
    simp [instants, LocalOffsets.toList, run, eq_comm]
  | twice a b =>
    obtain ⟨s, first, placeS, _⟩ := instant_spec a inside plain
    obtain ⟨t, second, placeT, _⟩ := instant_spec b inside plain
    have greater : b.seconds < a.seconds := List.rel_of_pairwise_cons order List.mem_cons_self
    have earlier : s < t := by
      rw [Moment.lt_iff_place]
      omega
    refine Zone.inverts_twice reads first second greater earlier (Set.ext fun x => ?_)
    simp [instants, LocalOffsets.toList, first, second, eq_comm]

/-- Half past one in the night of 3 November, which the clock of New York shows twice. -/
def repeatedHour : WallTime := (Moment.ofSeconds? 1730597400).get (by decide)

theorem newYork2024_inverse :
    newYork2024.zone.offsetsFor repeatedHour =
        .ok (.twice ⟨-14400, by decide, by decide⟩ ⟨-18000, by decide, by decide⟩) ∧
      newYork2024.zone.Inverts repeatedHour (.twice ⟨-14400, by decide, by decide⟩ ⟨-18000, by decide, by decide⟩) := by
  obtain ⟨offsets, reads, inverts⟩ := offsetsFor_inverse newYork2024 (l := repeatedHour) (by decide) (by decide)
  have twice : newYork2024.zone.offsetsFor repeatedHour =
      .ok (.twice ⟨-14400, by decide, by decide⟩ ⟨-18000, by decide, by decide⟩) := by decide +kernel
  obtain rfl := Except.ok.inj (reads.symm.trans twice)
  exact ⟨reads, inverts⟩

end FixedRule

end BucketPlan
