import BucketPlan.Proofs.Calendar.OneOffset
import BucketPlan.Proofs.Calendar.RegularOrder
import BucketPlan.Proofs.Date.YearBefore

/-!
A rule without a window keeps one offset, and its clock shows every second once. By
such a clock bucket `i` of a granularity opens at second `mark i`, and a second lies in
bucket `markIndex`. So the calendar only counts: the floor of an instant starts the bucket
that its second lies in (`floor_steady`), the next boundary and the one before start the
neighbouring buckets (`next_steady`, `previous_steady`), and a period has one bucket for
each number between those of its ends (`exists_bucketStarts_steady`).
-/

namespace BucketPlan

/-- Away from the ends the wall clock has shown the same time a year before, as many days
    before as the date moves. -/
theorem Moment.exists_shiftMonths?_year {l : WallTime} (inside : l.InsideBy 400) :
    ∃ m, l.shiftMonths? (-12) = some m ∧ m.seconds = l.seconds - 86400 * yearShift (l.seconds / 86400) ∧
      m.nanos = l.nanos := by
  have days := yearShift_eq l.date.day
  have day : l.date.day = l.seconds / 86400 := rfl
  rw [insideBy_def] at inside
  obtain ⟨d, _, before⟩ := Date.ofDay?_inside (n := l.date.day - yearShift l.date.day)
    (by unfold firstDay; omega) (by unfold lastDay; omega)
  obtain ⟨m, moved⟩ := exists_shiftMonths? (Date.shiftMonths?_year.2 before)
  exact ⟨m, moved, shiftMonths?_year.1 moved⟩

namespace FixedRule

/-- Bucket `i` starts at the instant, by a clock that keeps the standard offset. -/
structure StartsBucket (r : FixedRule) (g : Granularity) (weekStart : Weekday) (i : Int) (t : Instant) : Prop where
  whole : t.nanos = 0
  second : t.seconds + r.standard.seconds = g.mark weekStart i

variable {r : FixedRule} {g : Granularity} {weekStart : Weekday}

theorem StartsBucket.unique {i : Int} {t u : Instant} (startsT : r.StartsBucket g weekStart i t)
    (startsU : r.StartsBucket g weekStart i u) : t = u :=
  Moment.eq_of_seconds startsT.whole startsU.whole (by have same := startsT.second.trans startsU.second.symm; omega)

theorem StartsBucket.lt_iff {i j : Int} {t u : Instant} (startsT : r.StartsBucket g weekStart i t)
    (startsU : r.StartsBucket g weekStart j u) : t < u ↔ i < j := by
  have order : g.mark weekStart i < g.mark weekStart j ↔ i < j := Granularity.mark_lt_iff
  rw [Moment.lt_iff_seconds startsU.whole, ← order, ← startsT.second, ← startsU.second]
  omega

/-- Some buckets back are not far back. -/
theorem StartsBucket.inside_back {i : Int} {n : Nat} {t u : Instant} (startsT : r.StartsBucket g weekStart i t)
    (startsU : r.StartsBucket g weekStart (i - n) u) {days : Int} (inside : t.InsideBy (days + 31 * n)) :
    u.InsideBy days := by
  have reach := g.mark_add_le weekStart (i - n) n
  have usual : g.usualSeconds * n ≤ 86400 * 31 * n :=
    Int.mul_le_mul_of_nonneg_right g.usualSeconds_bounds.2 (Int.natCast_nonneg n)
  have order : g.mark weekStart (i - n) ≤ g.mark weekStart i := by
    rw [Granularity.mark_le_iff, Granularity.markIndex_mark]
    omega
  rw [Int.sub_add_cancel, ← startsT.second, ← startsU.second] at reach
  rw [← startsT.second, ← startsU.second] at order
  rw [Moment.insideBy_def] at *
  omega

section Steady
variable (steady : r.daylight = none)
include steady

theorem regular_of_steady (g : Granularity) : r.Regular g where
  lasting := by simp [Lasting, steady]
  narrow := by simp [Narrow, steady]
  wholeSeconds := by simp [switches, steady]
  sparesMidnights := by simp [switches, steady]
  keepsUnits := by simp [switches, steady]

theorem aheadAt_steady (n : Int) : r.aheadAt n = r.standard.seconds := by simp only [aheadAt, steady]

theorem dayAt_steady {t : Instant} (whole : t.nanos = 0) :
    r.dayAt t.place = (t.seconds + r.standard.seconds) / 86400 := by
  rw [dayAt, shown, aheadAt_steady steady, Moment.place_of_whole whole]
  omega

/-! ## Floors and neighbours -/

theorem opens_iff_startsBucket {i : Int} {t : Instant} :
    (r.calendar weekStart).Opens g i t ↔ r.StartsBucket g weekStart i t := by
  have clock : (r.calendar weekStart).zone.clock t = t.seconds + r.standard.seconds := (keeps steady).clock t
  constructor
  · rintro ⟨whole, second⟩
    exact ⟨whole, clock ▸ second⟩
  · rintro ⟨whole, second⟩
    exact ⟨whole, clock.trans second⟩

/-- The floor of a whole second starts the bucket that the second lies in. -/
theorem floor_steady (weekStart : Weekday) {t : Instant} (inside : t.InsideBy 40) (whole : t.nanos = 0) :
    ∃ f, (r.calendar weekStart).floor g t = .ok f ∧
      r.StartsBucket g weekStart (g.markIndex weekStart (t.seconds + r.standard.seconds)) f := by
  have keeps : (r.calendar weekStart).zone.Keeps r.standard := keeps steady
  obtain ⟨f, run, opens⟩ := Calendar.floor_inside_opens (g := g) keeps inside (Moment.plain_of_whole whole)
  rw [opens_iff_startsBucket steady, Calendar.bucketNumber, keeps.clock] at opens
  exact ⟨f, run, opens⟩

/-- The boundary after the start of a bucket starts the next one. -/
theorem next_steady {t : Instant} (inside : t.InsideBy 40) {i : Int} (starts : r.StartsBucket g weekStart i t) :
    ∃ n, (r.calendar weekStart).next g t = .ok (some n) ∧ r.StartsBucket g weekStart (i + 1) n := by
  have keeps : (r.calendar weekStart).zone.Keeps r.standard := keeps steady
  obtain ⟨n, run, opens⟩ := Calendar.next_inside_opens keeps inside ((opens_iff_startsBucket steady).2 starts)
  exact ⟨n, run, (opens_iff_startsBucket steady).1 opens⟩

/-- The boundary before the start of a bucket starts the one before. -/
theorem previous_steady {t : Instant} (inside : t.InsideBy 41) {i : Int} (starts : r.StartsBucket g weekStart i t) :
    ∃ b, (r.calendar weekStart).previous g t = .ok (some b) ∧ r.StartsBucket g weekStart (i - 1) b := by
  obtain ⟨whole, second⟩ := starts
  obtain ⟨before, run, exact⟩ := Moment.addSeconds?_inside (d := -1) inside (by decide) (by decide)
  obtain ⟨seconds, nanos⟩ := exact (Moment.plain_of_whole whole)
  have near : before.InsideBy 40 := by rw [Moment.insideBy_def] at *; omega
  obtain ⟨b, floor, starts⟩ := floor_steady (g := g) steady weekStart near (nanos.trans whole)
  have earlier := (Granularity.mark_succ_bounds g weekStart (i - 1)).1
  rw [Int.sub_add_cancel] at earlier
  have index : g.markIndex weekStart (before.seconds + r.standard.seconds) = i - 1 :=
    Granularity.markIndex_eq (by omega) (by rw [Int.sub_add_cancel]; omega)
  rw [index] at starts
  refine ⟨b, ?_, starts⟩
  simp only [Calendar.previous, run, floor, bind, Except.bind, pure, Except.pure]

theorem exists_startsBucket {t : Instant} (inside : t.InsideBy 40) (boundary : (r.calendar weekStart).Boundary g t) :
    ∃ i, r.StartsBucket g weekStart i t := by
  obtain ⟨f, floor, starts⟩ := floor_steady (g := g) steady weekStart inside boundary.nanos
  rw [Calendar.Boundary] at boundary
  rw [boundary] at floor
  cases floor
  exact ⟨_, starts⟩

/-- The start of a bucket is a boundary. -/
theorem StartsBucket.boundary {t : Instant} (inside : t.InsideBy 40) {i : Int}
    (starts : r.StartsBucket g weekStart i t) : (r.calendar weekStart).Boundary g t := by
  obtain ⟨f, floor, startsF⟩ := floor_steady (g := g) steady weekStart inside starts.whole
  rw [starts.second, Granularity.markIndex_mark] at startsF
  rw [Calendar.Boundary, floor, startsF.unique starts]

/-! ## The buckets of a period -/

theorem yields_steady {stop : Instant} (insideStop : stop.InsideBy 40) (n : Nat) {i : Int} {t : Instant}
    (inside : t.InsideBy 40) (starts : r.StartsBucket g weekStart i t)
    (ends : r.StartsBucket g weekStart (i + n) stop) :
    ∃ between, Cursor.Yields (r.calendar weekStart) ⟨g, some t, stop⟩ between ∧ between.length = n ∧
      ∀ (k : Nat) b, between[k]? = some b → r.StartsBucket g weekStart (i + k) b := by
  induction n generalizing i t with
  | zero =>
    have same : t = stop := starts.unique (by rwa [Int.natCast_zero, Int.add_zero] at ends)
    refine ⟨[], .ends ?_, rfl, by simp⟩
    simp only [Cursor.next?, same, lt_irrefl, if_false]
  | succ n ih =>
    obtain ⟨u, next, startsU⟩ := next_steady steady inside starts
    have before : t < stop := (starts.lt_iff ends).2 (by omega)
    have later : t < u := (starts.lt_iff startsU).2 (by omega)
    have reached : u ≤ stop := by
      rw [← not_lt, ends.lt_iff startsU]
      omega
    rw [Int.natCast_succ, Int.add_comm (n : Int), ← Int.add_assoc] at ends
    obtain ⟨between, yields, length, each⟩ :=
      ih (inside.between insideStop (le_of_lt later) reached) startsU ends
    refine ⟨t :: between, ?_, by rw [List.length_cons, length], ?_⟩
    · refine .step (Cursor.next?_eq_some_iff.2 ⟨rfl, before, some u, next, rfl⟩) ?_
      rw [Option.filter_some, if_pos (decide_eq_true later)]
      exact yields
    · intro k b found
      cases k with
      | zero =>
        cases found
        rwa [Int.natCast_zero, Int.add_zero]
      | succ k =>
        have there := each k b found
        rwa [Int.natCast_succ, Int.add_comm (k : Int), ← Int.add_assoc]

theorem exists_bucketStarts_steady {p : Period} (insideStart : p.start.InsideBy 40) (insideStop : p.stop.InsideBy 40)
    {i : Int} {n : Nat} (starts : r.StartsBucket g weekStart i p.start)
    (ends : r.StartsBucket g weekStart (i + n) p.stop) :
    ∃ between, (r.calendar weekStart).bucketStarts g p = .ok between ∧ between.length = n ∧
      ∀ (k : Nat) b, between[k]? = some b → r.StartsBucket g weekStart (i + k) b := by
  obtain ⟨between, yields, length, each⟩ := yields_steady steady insideStop n insideStart starts ends
  exact ⟨between, Calendar.bucketStarts_eq_ok_iff.2 yields, length, each⟩

/-! ## A year before -/

/-- The instant a year before a whole second is as many days before as its local date
    moves. -/
theorem yearEarlier_steady (weekStart : Weekday) {t : Instant} (inside : t.InsideBy 800) (whole : t.nanos = 0) :
    ∃ e, (r.calendar weekStart).yearEarlier t = .ok (some e) ∧ e.nanos = 0 ∧
      e.seconds = t.seconds - 86400 * yearShift ((t.seconds + r.standard.seconds) / 86400) := by
  obtain ⟨l, shows, exact⟩ := toLocal_spec r (inside.mono 1 (by decide))
  obtain ⟨place, nanos⟩ := exact (Moment.plain_of_whole whole)
  rw [shown, aheadAt_steady steady, Moment.place_of_whole (nanos.trans whole), Moment.place_of_whole whole] at place
  have seconds : l.seconds = t.seconds + r.standard.seconds := by omega
  have low := r.standard.lower
  have high := r.standard.upper
  have insideL : l.InsideBy 400 := by rw [Moment.insideBy_def] at *; omega
  obtain ⟨m, shifted, secondsM, nanosM⟩ := Moment.exists_shiftMonths?_year insideL
  have wholeM : m.nanos = 0 := nanosM.trans (nanos.trans whole)
  have days := yearShift_eq (l.seconds / 86400)
  have insideM : m.InsideBy 2 := by rw [Moment.insideBy_def] at *; omega
  obtain ⟨e, reads, placeE, nanosE⟩ := ofLocal_spec r insideM (Moment.plain_of_whole wholeM)
  have wholeE : e.nanos = 0 := nanosE.trans wholeM
  refine ⟨e, ?_, wholeE, ?_⟩
  · refine bind_eq_ok_iff.2 ⟨l, shows, ?_⟩
    simp only [Moment.moveMonths?_year, shifted]
    exact bind_eq_ok_iff.2 ⟨e, reads, rfl⟩
  · rw [Moment.place_of_whole wholeE, Moment.place_of_whole wholeM] at placeE
    simp only [resolved, offsetOn, steady] at placeE
    rw [← seconds]
    omega

end Steady

end FixedRule

end BucketPlan
