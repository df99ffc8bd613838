import BucketPlan.Proofs.Bucket.Walk
import BucketPlan.Proofs.Calendar.Boundaries
import BucketPlan.Zone.FixedRule
import Mathlib.Order.Basic

/-!
A calendar makes no promise about the order of its boundaries when the rules of its zone
are arbitrary: the next boundary may lie before an instant, or at it. Still every iteration
over a period ends (`bucketStarts_bounded`). The cursor goes on only to a later boundary,
and all boundaries are whole seconds, so each step behind the first uses up a second of the
period; what counts are the whole seconds that it contains (`Yields.length_le`). The length
of the period tells their number but for a leap second at its start, which the difference
of two instants leaves out when the time of day does not increase.
-/

namespace BucketPlan

/-! ## Zones with an answer -/

/-- Away from the ends of the representable years the zone lists offsets for every local time. -/
def Zone.Answers (z : Zone) : Prop := ∀ l : WallTime, l.InsideBy 1 → ∃ offsets, z.offsetsFor l = .ok offsets

theorem Zone.Answers.ofLocal {z : Zone} (answers : z.Answers) {l : WallTime} (inside : l.InsideBy 2) :
    ∃ t, z.ofLocal l = .ok t := by
  obtain ⟨offsets, listed⟩ := answers l (inside.mono 1 (by decide))
  obtain ⟨before, dayBefore, _⟩ := Moment.addSeconds?_inside (d := -86400) inside (by decide) (by decide)
  obtain ⟨o, reads⟩ : ∃ o, z.offsetFor l = .ok o := by
    cases offsets with
    | skipped =>
      simp only [offsetFor, listed, Moment.plus, dayBefore, orOverflow, bind, Except.bind, pure, Except.pure]
      exact ⟨_, rfl⟩
    | once o | twice a b =>
      simp only [offsetFor, listed, bind, Except.bind, pure, Except.pure]
      exact ⟨_, rfl⟩
  have low := o.lower
  have high := o.upper
  obtain ⟨t, run, _⟩ := Moment.addSeconds?_inside (d := -o.seconds) inside (by omega) (by omega)
  exact ⟨t, bind_eq_ok_iff.2 ⟨o, reads, Moment.plus_eq_ok_iff.2 run⟩⟩

/-- The zone of a rule answers, also in leap seconds. -/
theorem FixedRule.answers (r : FixedRule) : r.zone.Answers := by
  intro l inside
  have admits : ∀ o, ∃ b, r.admits l o = .ok b := by
    intro o
    have low := o.lower
    have high := o.upper
    obtain ⟨t, run, _⟩ := Moment.addSeconds?_inside (d := -o.seconds) inside (by omega) (by omega)
    exact ⟨_, bind_eq_ok_iff.2 ⟨t, Moment.plus_eq_ok_iff.2 run, rfl⟩⟩
  obtain ⟨_, standard⟩ := admits r.standard
  simp only [zone, offsetsFor, standard, bind, Except.bind, pure, Except.pure]
  cases r.daylight with
  | none => exact ⟨_, rfl⟩
  | some w =>
    obtain ⟨_, daylight⟩ := admits w.offset
    simp only [daylight]
    exact ⟨_, rfl⟩

namespace Calendar

variable {cal : Calendar} {t : Instant}

theorem exists_next_of_answers (answers : cal.zone.Answers) (g : Granularity) (inside : t.InsideBy 40) :
    ∃ following, cal.next g t = .ok following := by
  have low := (cal.zone.offsetAt t).lower
  have high := (cal.zone.offsetAt t).upper
  obtain ⟨l, shows, _⟩ :=
    Moment.addSeconds?_inside (d := (cal.zone.offsetAt t).seconds) inside (by omega) (by omega)
  have date : cal.dateOf t = .ok l.date :=
    bind_eq_ok_iff.2 ⟨l, Moment.plus_eq_ok_iff.2 shows, rfl⟩
  unfold next
  cases g.unitSeconds? with
  | some unit => exact ⟨_, rfl⟩
  | none =>
    simp only [date, bind, Except.bind, pure, Except.pure]
    cases found : nextDate? g l.date with
    | none => exact ⟨none, rfl⟩
    | some n =>
      have near := dateOf_near date
      have later := nextDate?_near found
      rw [Moment.insideBy_def] at inside
      have insideN : (Moment.midnight n).InsideBy 2 := by
        rw [Moment.insideBy_def]
        simp only [Moment.midnight]
        omega
      obtain ⟨s, dawns⟩ := answers.ofLocal insideN
      have dawns : cal.dayStart n = .ok s := dawns
      simp only [dawns]
      exact ⟨some s, rfl⟩

end Calendar

/-! ## Steps of a cursor -/

namespace Cursor.Yields

variable {cal : Calendar} {c : Cursor} {starts : List Instant} {t : Instant}

theorem tail_nanos (yields : Yields cal c starts) : ∀ b ∈ starts.tail, b.nanos = 0 := by
  induction yields with
  | ends _ => simp
  | @step c rest first starts next more ih =>
    intro b member
    cases more with
    | ends _ => cases member
    | @step _ after second starts again more =>
      rcases List.mem_cons.1 member with rfl | behind
      · obtain ⟨_, _, following, leads, rfl⟩ := next?_eq_some_iff.1 next
        obtain ⟨found, _⟩ := Option.filter_eq_some_iff.1 (next?_eq_some_iff.1 again).1
        rw [found] at leads
        exact Calendar.next_nanos leads
      · exact ih b behind

/-- No more is yielded than there are whole seconds before the end, from that of the first
    instant on. -/
theorem length_le (yields : Yields cal c starts) (standing : c.upcoming = some t) (before : t < c.stop) :
    (starts.length : Int) ≤ c.stop.seconds - t.seconds + if c.stop.nanos = 0 then 0 else 1 := by
  induction yields generalizing t with
  | ends _ =>
    rw [Moment.lt_def] at before
    rw [List.length_nil]
    split <;> omega
  | @step c rest first starts next more ih =>
    obtain ⟨here, _, _⟩ := next?_eq_some_iff.1 next
    obtain ⟨stop, later⟩ := rest_of_next? next
    rw [standing] at here
    cases here
    cases starts with
    | nil =>
      rw [Moment.lt_def] at before
      rw [List.length_singleton]
      split <;> omega
    | cons second starts =>
      have whole := (Yields.step next more).tail_nanos second List.mem_cons_self
      have inside := (more.within more.head_eq second List.mem_cons_self).2
      have rest := ih more.head_eq inside
      have order := later second more.head_eq
      rw [Moment.lt_def, whole] at order
      rw [stop] at rest
      rw [List.length_cons]
      omega

end Cursor.Yields

/-! ## The length of a period -/

/-- A difference counts the seconds between, a leap second when it lies strictly between the
    times of day, and the nanoseconds. -/
theorem Moment.nanosSince_eq (a b : Moment) :
    a.nanosSince b = (a.seconds - b.seconds + if b.secondOfDay < a.secondOfDay ∧ b.InLeapSecond then 1
      else if a.secondOfDay < b.secondOfDay ∧ a.InLeapSecond then -1 else 0) * 1000000000 + (a.nanos - b.nanos) := by
  have days : (a.date.day - b.date.day) * 86400 + ((a.secondOfDay : Int) - b.secondOfDay) = a.seconds - b.seconds := by
    simp only [date, secondOfDay]
    omega
  simp only [nanosSince, days]

namespace Period

/-- The period starts in a leap second that its length leaves out, since the time of day at
    its end is not later. -/
def LeavesOutLeap (p : Period) : Prop := p.start.InLeapSecond ∧ p.stop.secondOfDay ≤ p.start.secondOfDay

instance (p : Period) : Decidable p.LeavesOutLeap := inferInstanceAs (Decidable (_ ∧ _))

/-- The whole seconds before the end of a period, from that of its start on, are two more than
    its length at most, and three more where the length leaves out a leap second. -/
theorem seconds_apart_le (p : Period) :
    p.stop.seconds - p.start.seconds + (if p.stop.nanos = 0 then 0 else 1) ≤
      max 0 p.seconds + 2 + if p.LeavesOutLeap then 1 else 0 := by
  have startNanos := p.start.nanos_lt
  have stopNanos := p.stop.nanos_lt
  have rounded : p.stop.nanosSince p.start / 1000000000 ≤ max 0 p.seconds := by
    rw [seconds, Moment.secondsSince]
    rcases Int.lt_or_le (p.stop.nanosSince p.start) 0 with negative | positive
    · omega
    · rw [Int.tdiv_eq_ediv_of_nonneg positive]
      omega
  rw [Moment.nanosSince_eq] at rounded
  unfold Moment.InLeapSecond at rounded
  unfold LeavesOutLeap Moment.InLeapSecond
  split_ifs at rounded ⊢ <;> omega

end Period

/-! ## Iterations -/

/-- Whatever the rules of the zone, an iteration over a period ends. What it yields increases,
    starts with the period and stays in it, is a whole second from the second item on, and is
    bounded in number by the length of the period. -/
theorem Calendar.bucketStarts_bounded {cal : Calendar} (answers : cal.zone.Answers) (g : Granularity) {p : Period}
    (insideStart : p.start.InsideBy Moment.quarterCentury) (insideStop : p.stop.InsideBy Moment.quarterCentury) :
    ∃ starts, (Cursor.ofPeriod g p).Yields cal starts ∧ starts.Pairwise (· < ·) ∧ (∀ b ∈ starts, p.Contains b) ∧
      (starts.head? = some p.start ↔ p.start < p.stop) ∧ (∀ b ∈ starts.tail, b.nanos = 0) ∧
      (starts.length : Int) ≤ max 0 p.seconds + 2 + (if p.LeavesOutLeap then 1 else 0) ∧
      (starts.length : Int) ≤ max 0 (p.stop.seconds - p.start.seconds) + 1 := by
  have leads : ∀ t, p.start ≤ t → t < p.stop → ∃ following, cal.next g t = .ok following := fun t low high =>
    exists_next_of_answers answers g ((insideStart.between insideStop low (le_of_lt high)).mono 40 (by decide))
  obtain ⟨starts, run⟩ := exists_bucketStarts leads
  have yields := bucketStarts_eq_ok_iff.1 run
  have within : ∀ b ∈ starts, p.Contains b := yields.within rfl
  refine ⟨starts, yields, yields.increasing, within, ?_, yields.tail_nanos, ?_⟩
  · constructor
    · intro head
      exact (within p.start (List.mem_of_mem_head? head)).2
    · intro later
      have some_bucket := (pos_bucketCount_iff (bucketCount_eq_ok_iff.2 ⟨starts, run, rfl⟩)).2 later
      exact head?_bucketStarts run (List.ne_nil_of_length_pos some_bucket)
  · by_cases later : p.start < p.stop
    · have few := yields.length_le rfl later
      have apart := p.seconds_apart_le
      have order := Moment.seconds_le (le_of_lt later)
      have stop : (Cursor.ofPeriod g p).stop = p.stop := rfl
      rw [stop] at few
      refine ⟨by omega, ?_⟩
      split at few <;> omega
    · have none : starts = [] := by
        rw [List.eq_nil_iff_forall_not_mem]
        intro b member
        exact later (lt_of_le_of_lt (within b member).1 (within b member).2)
      rw [none, List.length_nil]
      split <;> omega

/-- A zone without order: the offset changes with every second, and local times are skipped
    or have two offsets at which they do not exist. -/
def erratic : Zone where
  id := "Erratic"
  offsetAt t := .ofSeconds (7919 * t.seconds % 86400)
  offsetsFor l := .ok (if l.seconds % 2 = 0 then .skipped else .twice .utc (.ofSeconds (l.seconds % 3600)))

/-- Ten hours, from half a second after a new year to a quarter of a second after the last. -/
def tenHours : Period where
  start := (Moment.ofParts? 1704067200 500000000).get (by decide)
  stop := (Moment.ofParts? 1704103200 250000000).get (by decide)
  timezone := "Erratic"

theorem erratic_bounded :
    ∃ starts, (Cursor.ofPeriod .minute tenHours).Yields ⟨erratic, .monday⟩ starts ∧
      starts.Pairwise (· < ·) ∧ (∀ b ∈ starts, tenHours.Contains b) ∧ starts.head? = some tenHours.start ∧
      (∀ b ∈ starts.tail, b.nanos = 0) ∧ starts.length ≤ 36001 := by
  have answers : (Calendar.mk erratic .monday).zone.Answers := fun l _ => ⟨_, rfl⟩
  obtain ⟨starts, yields, increasing, within, head, whole, few, _⟩ :=
    Calendar.bucketStarts_bounded answers .minute (p := tenHours) (by decide) (by decide)
  have length : tenHours.seconds = 35999 := by decide
  have counted : ¬ tenHours.LeavesOutLeap := by decide
  rw [length, if_neg counted] at few
  exact ⟨starts, yields, increasing, within, head.2 (by decide), whole, by omega⟩

/-- A clock that leaps over a day but for a second, in the first second of 2017. -/
def leaping : FixedRule where
  id := "Leaping"
  standard := .utc
  daylight := some {
    offset := ⟨86399, by decide, by decide⟩
    start := (Moment.ofSeconds? 1483228801).get (by decide)
    stop := (Moment.ofSeconds? 1496275200).get (by decide) }

/-- From the end of the leap second before 2017 to just behind the leap of the clock. -/
def turnOfYear : Period where
  start := (Moment.ofParts? 1483228799 1999000000).get (by decide)
  stop := (Moment.ofParts? 1483228801 1000000).get (by decide)
  timezone := "Leaping"

/-- Three days start in a period that has no whole second by its length, since this leaves out
    the leap second. -/
theorem turnOfYear_overlong :
    leaping.zone.Answers ∧ turnOfYear.start.InsideBy Moment.quarterCentury ∧
      turnOfYear.stop.InsideBy Moment.quarterCentury ∧
      ∃ starts, (Cursor.ofPeriod .day turnOfYear).Yields ⟨leaping.zone, .monday⟩ starts ∧
        ¬ (starts.length : Int) ≤ max 0 turnOfYear.seconds + 2 := by
  have run : Calendar.bucketStarts ⟨leaping.zone, .monday⟩ .day turnOfYear =
      .ok [turnOfYear.start, (Moment.ofSeconds? 1483228800).get (by decide),
        (Moment.ofSeconds? 1483228801).get (by decide)] := by decide +kernel
  exact ⟨leaping.answers, by decide, by decide, _, Calendar.bucketStarts_eq_ok_iff.1 run, by decide⟩

end BucketPlan
