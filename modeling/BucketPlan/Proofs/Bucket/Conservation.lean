import BucketPlan.Proofs.Bucket.Fill
import BucketPlan.Proofs.Bucket.Walk
import BucketPlan.Proofs.Calendar.OneOffset
import BucketPlan.Proofs.Period.Normalized
import Mathlib.Algebra.BigOperators.Group.List.Basic
import Mathlib.Data.List.Dedup

/-!
Events with weights are grouped by the floors of their instants, and the weights of the groups
are filled in over the buckets of a period. Their sum is the total weight when every floor is
among the starts of the buckets (`Groups.sum_fill`). In a zone with one offset the starts of a
normalized period are the openings of all buckets that lie in it (`Cursor.Yields.exists_opens`),
if its own start opens one, and so no weight is lost (`fill_exact`). The first representable
bucket may begin before the first second, and then what lies in it has other floors
(`firstMinutes_loses`).
-/

namespace BucketPlan

/-! ## Groups of events -/

namespace Calendar

section Weights
variable {W : Type} [AddCommMonoid W] {cal : Calendar} {g : Granularity} {events rows : List (Instant × W)}

/-- The weights of the events whose bucket starts at the instant, taken together. -/
def weightAt (cal : Calendar) (g : Granularity) (events : List (Instant × W)) (t : Instant) : W :=
  ((events.filter fun e => cal.floor g e.1 = .ok t).map (·.2)).sum

/-- The events grouped by the starts of their buckets: one row for each, with the weights of its
    events taken together. -/
structure Groups (cal : Calendar) (g : Granularity) (events rows : List (Instant × W)) : Prop where
  distinct : (rows.map (·.1)).Nodup
  floors : ∀ e ∈ events, ∃ row ∈ rows, cal.floor g e.1 = .ok row.1
  weights : ∀ row ∈ rows, row.2 = cal.weightAt g events row.1

theorem exists_groups (floors : ∀ e ∈ events, ∃ f, cal.floor g e.1 = .ok f) : ∃ rows, cal.Groups g events rows := by
  let keys := (events.filterMap fun e => (cal.floor g e.1).toOption).dedup
  refine ⟨keys.map fun t => (t, cal.weightAt g events t), ?_, ?_, ?_⟩
  · have same : (keys.map fun t => (t, cal.weightAt g events t)).map (·.1) = keys := by
      simp [Function.comp_def]
    rw [same]
    exact List.nodup_dedup _
  · intro e member
    obtain ⟨f, floor⟩ := floors e member
    refine ⟨(f, cal.weightAt g events f), List.mem_map_of_mem (List.mem_dedup.2 ?_), floor⟩
    exact List.mem_filterMap.2 ⟨e, member, by rw [floor]; rfl⟩
  · intro row member
    obtain ⟨t, _, rfl⟩ := List.mem_map.1 member
    rfl

/-- When every event has its floor among distinct starts, the weights at the starts add up to
    that of all events. -/
theorem sum_weightAt {starts : List Instant} (distinct : starts.Nodup)
    (each : ∀ e ∈ events, ∃ t ∈ starts, cal.floor g e.1 = .ok t) :
    (starts.map (cal.weightAt g events)).sum = (events.map (·.2)).sum := by
  induction starts generalizing events with
  | nil =>
    have none : events = [] := by
      rw [List.eq_nil_iff_forall_not_mem]
      intro e member
      obtain ⟨_, nowhere, _⟩ := each e member
      cases nowhere
    rw [none]
    rfl
  | cons t starts ih =>
    obtain ⟨apart, distinct⟩ := List.nodup_cons.1 distinct
    -- The events of the other buckets, which weigh the same at the other starts.
    let others := events.filter fun e => ¬ cal.floor g e.1 = .ok t
    have elsewhere : starts.map (cal.weightAt g events) = starts.map (cal.weightAt g others) := by
      apply List.map_congr_left
      intro u member
      have same : ∀ e : Instant × W, cal.floor g e.1 = .ok u → cal.floor g e.1 ≠ .ok t := by
        intro e floor again
        rw [floor] at again
        exact ne_of_mem_of_not_mem member apart (Except.ok.inj again)
      simp only [weightAt, others, List.filter_filter]
      congr 2
      apply List.filter_congr
      intro e _
      by_cases floor : cal.floor g e.1 = .ok u
      · rw [decide_eq_true floor, decide_eq_true (same e floor), Bool.and_self]
      · rw [decide_eq_false floor, Bool.false_and]
    have rest : (starts.map (cal.weightAt g others)).sum = (others.map (·.2)).sum := by
      apply ih distinct
      intro e member
      obtain ⟨within, floor⟩ := List.mem_filter.1 member
      obtain ⟨u, start, here⟩ := each e within
      rcases List.mem_cons.1 start with rfl | behind
      · exact absurd here (of_decide_eq_true floor)
      · exact ⟨u, behind, here⟩
    rw [List.map_cons, List.sum_cons, elsewhere, rest]
    exact List.sum_map_filter_add_sum_map_filter_not _ _ _

variable {s : BucketSequence}

/-- Over distinct starts that have the floors of all events no weight is lost. -/
theorem Groups.sum_fill (groups : cal.Groups g events rows) (distinct : s.starts.Nodup)
    (each : ∀ e ∈ events, ∃ t ∈ s.starts, cal.floor g e.1 = .ok t) :
    (s.fill rows 0).sum = (events.map (·.2)).sum := by
  rw [BucketSequence.fill_eq_map distinct, ← sum_weightAt distinct each]
  congr 1
  apply List.map_congr_left
  intro t _
  cases found : BucketSequence.lastRow? t rows with
  | some v =>
    obtain ⟨before, after, rfl, _⟩ := BucketSequence.lastRow?_eq_some_iff.1 found
    exact groups.weights (t, v) (by simp)
  | none =>
    have absent := BucketSequence.lastRow?_eq_none_iff.1 found
    have empty : events.filter (fun e => cal.floor g e.1 = .ok t) = [] := by
      rw [List.filter_eq_nil_iff]
      intro e member floor
      obtain ⟨row, listed, again⟩ := groups.floors e member
      rw [of_decide_eq_true floor] at again
      exact absent row listed (Except.ok.inj again).symm
    rw [weightAt, empty]
    rfl

end Weights

end Calendar

/-! ## Buckets of a period -/

section Keeps
variable {cal : Calendar} {g : Granularity} {o : Offset} (keeps : cal.zone.Keeps o) {x : Instant}
include keeps

/-- A cursor that stands at the opening of a bucket yields the opening of every bucket that an
    instant before the end lies in. -/
theorem Cursor.Yields.exists_opens {c : Cursor} {starts : List Instant} {i : Int} {t : Instant}
    (yields : c.Yields cal starts) (standing : c.upcoming = some t) (opens : cal.Opens c.granularity i t)
    (datedT : cal.Dated c.granularity t) (since : t ≤ x) (before : x < c.stop) (plain : ¬ x.InLeapSecond)
    (datedX : cal.Dated c.granularity x) :
    ∃ b ∈ starts, cal.Opens c.granularity (cal.bucketNumber c.granularity x) b := by
  induction yields generalizing t i with
  | ends done =>
    simp only [Cursor.next?, standing, lt_of_le_of_lt since before, if_true] at done
    split at done
    · cases done
    · cases done
  | @step c rest first starts next more ih =>
    obtain ⟨here, _, following, leads, rfl⟩ := Cursor.next?_eq_some_iff.1 next
    rw [standing] at here
    cases here
    have clock := Calendar.clock_le_clock keeps since
    rw [opens.second] at clock
    rcases Int.lt_or_le (cal.zone.clock x) (c.granularity.mark cal.weekStart (i + 1)) with within | behind
    · have number : cal.bucketNumber c.granularity x = i := Granularity.markIndex_eq clock within
      exact ⟨first, List.mem_cons_self, by rwa [number]⟩
    · obtain ⟨n, leadsN, opensN, later, sinceN⟩ := Calendar.next_opens keeps opens datedT plain datedX behind
      obtain rfl := Except.ok.inj (leads.symm.trans leadsN)
      have goes : (some n).filter (first < ·) = some n := Option.filter_eq_some_iff.2 ⟨rfl, decide_eq_true later⟩
      have datedN := datedT.between datedX (Moment.plain_of_whole opens.whole) plain
        (Moment.plain_of_whole opensN.whole) (Calendar.clock_le_clock keeps (le_of_lt later))
        (Calendar.clock_le_clock keeps sinceN)
      obtain ⟨b, member, opensB⟩ := ih goes opensN datedN sinceN before datedX
      exact ⟨b, List.mem_cons_of_mem first member, opensB⟩

namespace Calendar

variable {p : Period} {rawStart rawStop : Instant}

theorem dated_of_floor {t f : Instant} (run : cal.floor g t = .ok f) : cal.Dated g f := by
  intro byDate
  simp only [floor, byDate] at run
  obtain ⟨_, _, dawns⟩ := bind_eq_ok_iff.1 run
  exact dated_of_dayStart keeps dawns byDate

theorem dated_of_ceil {t c : Instant} (run : cal.ceil g t = .ok c) : cal.Dated g c := by
  obtain ⟨f, floor, run⟩ := bind_eq_ok_iff.1 run
  split at run
  · cases run
    exact dated_of_floor keeps floor
  · obtain ⟨following, next, run⟩ := bind_eq_ok_iff.1 run
    cases run
    cases following with
    | none => exact dated_of_floor keeps floor
    | some n =>
      intro byDate
      simp only [Calendar.next, byDate] at next
      obtain ⟨_, _, next⟩ := bind_eq_ok_iff.1 next
      split at next
      · cases next
      · obtain ⟨_, dawns, same⟩ := bind_eq_ok_iff.1 next
        cases same
        exact dated_of_dayStart keeps dawns byDate

theorem dated_of_normalize (normalized : cal.normalize g rawStart rawStop = .ok p) (plain : ¬ x.InLeapSecond)
    (inside : p.Contains x) : cal.Dated g x := by
  obtain ⟨_, start, stop, floor, ceil, _, bounded⟩ := normalize_eq_ok_iff.1 normalized
  obtain ⟨_, rfl, _⟩ := boundedPeriod_eq_ok_iff.1 bounded
  exact (dated_of_floor keeps floor).between (dated_of_ceil keeps ceil) (Moment.plain_of_whole (floor_nanos floor))
    (Moment.plain_of_whole (ceil_nanos ceil)) plain (clock_le_clock keeps inside.1)
    (clock_le_clock keeps (le_of_lt inside.2))

theorem opens_of_normalize (normalized : cal.normalize g rawStart rawStop = .ok p)
    (behind : firstSecond + 86400 * 7 ≤ p.start.seconds) : ∃ i, cal.Opens g i p.start := by
  obtain ⟨_, start, stop, floor, _, _, bounded⟩ := normalize_eq_ok_iff.1 normalized
  obtain ⟨_, rfl, _⟩ := boundedPeriod_eq_ok_iff.1 bounded
  exact opens_of_floor keeps floor behind

/-- What lies in a normalized period that starts with the opening of a bucket has its floor among
    the bucket starts. -/
theorem exists_floor_mem {i : Int} {starts : List Instant} (normalized : cal.normalize g rawStart rawStop = .ok p)
    (opens : cal.Opens g i p.start) (run : cal.bucketStarts g p = .ok starts) (plain : ¬ x.InLeapSecond)
    (inside : p.Contains x) : ∃ t ∈ starts, cal.floor g x = .ok t := by
  have dated := dated_of_normalize keeps normalized plain inside
  have startDated : cal.Dated g p.start :=
    dated_of_normalize keeps normalized (Moment.plain_of_whole opens.whole)
      ⟨le_refl p.start, lt_of_le_of_lt inside.1 inside.2⟩
  obtain ⟨f, floor, opensF⟩ := floor_opens keeps opens startDated inside.1 plain dated
  obtain ⟨b, member, opensB⟩ :=
    (bucketStarts_eq_ok_iff.1 run).exists_opens keeps rfl opens startDated inside.1 inside.2 plain dated
  rw [opensF.unique keeps opensB] at floor
  exact ⟨b, member, floor⟩

end Calendar

end Keeps

/-! ## Nothing is lost -/

/-- Over the buckets of the period no weight is lost: events in it, outside leap seconds, can be
    grouped by the starts of their buckets, and with any such groups the values that are filled
    in add up to all weights. -/
def Calendar.Conserves (cal : Calendar) (g : Granularity) (p : Period) : Prop :=
  ∃ s, cal.bucketSequence g p = .ok s ∧
    ∀ (W : Type) [AddCommMonoid W] (events : List (Instant × W)),
      (∀ e ∈ events, p.Contains e.1 ∧ ¬ e.1.InLeapSecond) →
        (∃ rows, cal.Groups g events rows) ∧
          ∀ rows, cal.Groups g events rows → (s.fill rows 0).sum = (events.map (·.2)).sum

/-- Rows are laid out over distinct starts as they belong. In a zone with one offset groups of
    events do not lose weight over the buckets of a normalized period that starts with the opening
    of a bucket, as it does behind the first week. -/
theorem BucketSequence.fill_exact :
    (∀ (α : Type) (s : BucketSequence) (missing : α), s.starts.Nodup → s.Places missing) ∧
      ∀ (cal : Calendar) (o : Offset) (g : Granularity) (rawStart rawStop : Instant) (p : Period),
        cal.zone.Keeps o → cal.normalize g rawStart rawStop = .ok p →
          (firstSecond + 86400 * 7 ≤ p.start.seconds → ∃ i, cal.Opens g i p.start) ∧
          ((∃ i, cal.Opens g i p.start) → cal.Conserves g p) := by
  refine ⟨fun α s missing distinct => places distinct missing, ?_⟩
  intro cal o g rawStart rawStop p keeps normalized
  refine ⟨Calendar.opens_of_normalize keeps normalized, ?_⟩
  rintro ⟨i, opens⟩
  obtain ⟨_, count, _⟩ := Calendar.normalize_count normalized
  obtain ⟨starts, run, _⟩ := Calendar.bucketCount_eq_ok_iff.1 count
  refine ⟨⟨g, p.timezone, starts⟩, Calendar.bucketSequence_eq_ok_iff.2 ⟨starts, run, rfl⟩, ?_⟩
  intro W _ events inside
  have each : ∀ e ∈ events, ∃ t ∈ starts, cal.floor g e.1 = .ok t := fun e member =>
    Calendar.exists_floor_mem keeps normalized opens run (inside e member).2 (inside e member).1
  refine ⟨Calendar.exists_groups fun e member => ?_, fun rows groups => groups.sum_fill ?_ each⟩
  · obtain ⟨t, _, floor⟩ := each e member
    exact ⟨t, floor⟩
  · exact (Calendar.bucketStarts_eq_ok_iff.1 run).increasing.imp fun less => ne_of_lt less

/-- The clock of Kathmandu, a quarter of an hour before a whole hour of UTC. -/
def kathmandu : FixedRule := ⟨"Asia/Kathmandu", ⟨20700, by decide, by decide⟩, none⟩

/-- Two hours from noon on 1 March 2024 in Kathmandu. -/
def twoHours : Period where
  start := (Moment.ofSeconds? 1709273700).get (by decide)
  stop := (Moment.ofSeconds? 1709280900).get (by decide)
  timezone := "Asia/Kathmandu"

theorem kathmandu_fill_exact :
    (BucketSequence.mk .hour "Asia/Kathmandu" [twoHours.start, twoHours.stop]).Places 0 ∧
      Calendar.Conserves ⟨kathmandu.zone, .monday⟩ .hour twoHours := by
  obtain ⟨places, conserves⟩ := BucketSequence.fill_exact
  have normalized : Calendar.normalize ⟨kathmandu.zone, .monday⟩ .hour ((Moment.ofSeconds? 1709274600).get (by decide))
      twoHours.stop = .ok twoHours := by decide +kernel
  obtain ⟨opens, weighs⟩ := conserves _ _ _ _ _ _ (FixedRule.keeps (r := kathmandu) rfl) normalized
  exact ⟨places _ _ _ (by decide), weighs (opens (by decide))⟩

/-- A clock that is half an hour ahead, so that its first whole hour comes half an hour after the
    first second. -/
def halfHour : FixedRule := ⟨"Half", ⟨1800, by decide, by decide⟩, none⟩

/-- The first ten minutes of all. -/
def firstMinutes : Period where
  start := (Moment.ofSeconds? (-8334601228800)).get (by decide)
  stop := (Moment.ofSeconds? (-8334601228200)).get (by decide)
  timezone := "Half"

/-- The bucket of the first ten minutes begins before the first second. It is cut off there as
    a start, but the instants in it keep themselves as floors, and their weight is lost. -/
theorem firstMinutes_loses :
    halfHour.zone.Keeps halfHour.standard ∧
      Calendar.normalize ⟨halfHour.zone, .monday⟩ .hour firstMinutes.start firstMinutes.stop = .ok firstMinutes ∧
      ¬ Calendar.Conserves ⟨halfHour.zone, .monday⟩ .hour firstMinutes := by
  refine ⟨FixedRule.keeps rfl, by decide +kernel, ?_⟩
  rintro ⟨s, run, conserves⟩
  have starts : Calendar.bucketSequence ⟨halfHour.zone, .monday⟩ .hour firstMinutes =
      .ok ⟨.hour, "Half", [firstMinutes.start]⟩ := by decide +kernel
  rw [starts] at run
  cases run
  -- One event of weight one, five minutes after the first second.
  let middle : Instant := (Moment.ofSeconds? (-8334601228500)).get (by decide)
  have groups : Calendar.Groups ⟨halfHour.zone, .monday⟩ .hour [(middle, 1)] [(middle, 1)] := by
    refine ⟨by decide, ?_, ?_⟩ <;> decide +kernel
  have sum := (conserves Nat [(middle, 1)] (by decide)).2 _ groups
  exact absurd sum (by decide)

end BucketPlan
