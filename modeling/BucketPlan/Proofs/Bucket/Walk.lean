import BucketPlan.Bucket.Sequence
import BucketPlan.Proofs.Moment.Line
import BucketPlan.Proofs.Runs

namespace BucketPlan

namespace Cursor

/-- The cursor yields these bucket starts, one after the other, and then ends. -/
inductive Yields (cal : Calendar) : Cursor → List Instant → Prop
  | ends {c : Cursor} (done : c.next? cal = .ok none) : Yields cal c []
  | step {c rest : Cursor} {t : Instant} {starts : List Instant} (next : c.next? cal = .ok (some (t, rest)))
      (more : Yields cal rest starts) : Yields cal c (t :: starts)

variable {cal : Calendar} {c rest : Cursor} {seen starts : List Instant} {t : Instant}

/-! ## Collecting -/

theorem collect_done (ends : c.next? cal = .ok none) : c.collect cal seen = .ok seen.reverse := by
  rw [collect]
  split
  · next e h => rw [ends] at h; cases h
  · rfl
  · next t after h => rw [ends] at h; cases h

theorem collect_step (steps : c.next? cal = .ok (some (t, rest))) :
    c.collect cal seen = rest.collect cal (t :: seen) := by
  rw [collect]
  split
  · next e h => rw [steps] at h; cases h
  · next h => rw [steps] at h; cases h
  · next u after h => rw [steps] at h; cases h; rfl

theorem Yields.collect (yields : Yields cal c starts) (seen : List Instant) :
    c.collect cal seen = .ok (seen.reverse ++ starts) := by
  induction yields generalizing seen with
  | ends done => rw [collect_done done, List.append_nil]
  | step next _ ih =>
    rw [collect_step next, ih, List.reverse_cons, List.append_assoc, List.singleton_append]

theorem exists_yields_of_collect {c : Cursor} {seen all : List Instant} (run : c.collect cal seen = .ok all) :
    ∃ starts, Yields cal c starts ∧ all = seen.reverse ++ starts := by
  cases found : c.next? cal with
  | error e =>
    rw [Cursor.collect] at run
    split at run
    · cases run
    · next h => rw [found] at h; cases h
    · next h => rw [found] at h; cases h
  | ok answer =>
    cases answer with
    | none =>
      rw [collect_done found] at run
      cases run
      exact ⟨[], .ends found, (List.append_nil _).symm⟩
    | some item =>
      obtain ⟨t, rest⟩ := item
      have shorter := secondsLeft_next found
      rw [collect_step found] at run
      obtain ⟨starts, more, rfl⟩ := exists_yields_of_collect run
      refine ⟨t :: starts, .step found more, ?_⟩
      rw [List.reverse_cons, List.append_assoc, List.singleton_append]
termination_by c.secondsLeft

theorem toList_eq_ok_iff : c.toList cal = .ok starts ↔ Yields cal c starts := by
  constructor
  · intro run
    obtain ⟨_, yields, rfl⟩ := exists_yields_of_collect run
    exact yields
  · intro yields
    exact yields.collect []

/-! ## What is yielded -/

/-- A cursor yields the instant that it stands before, when that is before the end, and
    goes on to the next boundary, when that is later. -/
theorem next?_eq_some_iff :
    c.next? cal = .ok (some (t, rest)) ↔ c.upcoming = some t ∧ t < c.stop ∧
      ∃ following, cal.next c.granularity t = .ok following ∧
        rest = { c with upcoming := following.filter (t < ·) } := by
  unfold next?
  cases standing : c.upcoming with
  | none => simp
  | some current =>
    simp only [Option.some.injEq]
    constructor
    · intro run
      split at run
      · next before =>
        split at run
        · cases run
        · next following leads =>
          cases run
          exact ⟨rfl, before, following, leads, rfl⟩
      · cases run
    · rintro ⟨rfl, before, following, leads, rfl⟩
      rw [if_pos before, leads]

theorem rest_of_next? (next : c.next? cal = .ok (some (t, rest))) :
    rest.stop = c.stop ∧ ∀ u, rest.upcoming = some u → t < u := by
  obtain ⟨_, _, following, _, rfl⟩ := next?_eq_some_iff.1 next
  refine ⟨rfl, ?_⟩
  intro u goes
  exact of_decide_eq_true (Option.filter_eq_some_iff.1 goes).2

namespace Yields

theorem head_eq (yields : Yields cal c (t :: starts)) : c.upcoming = some t := by
  cases yields with
  | step next _ => exact (next?_eq_some_iff.1 next).1

/-- What is yielded lies between where the cursor stands and the end. -/
theorem within (yields : Yields cal c starts) (standing : c.upcoming = some t) :
    ∀ b ∈ starts, t ≤ b ∧ b < c.stop := by
  induction yields generalizing t with
  | ends _ => intro b member; cases member
  | @step c rest first starts next more ih =>
    obtain ⟨here, before, _⟩ := next?_eq_some_iff.1 next
    obtain ⟨stop, later⟩ := rest_of_next? next
    rw [standing] at here
    cases here
    intro b member
    rcases List.mem_cons.1 member with rfl | behind
    · exact ⟨le_refl b, before⟩
    · cases starts with
      | nil => cases behind
      | cons second starts =>
        obtain ⟨low, high⟩ := ih more.head_eq b behind
        rw [stop] at high
        exact ⟨le_trans (le_of_lt (later second more.head_eq)) low, high⟩

/-- Whatever the calendar, what is yielded increases. -/
theorem increasing (yields : Yields cal c starts) : starts.Pairwise (· < ·) := by
  induction yields with
  | ends _ => exact .nil
  | @step c rest first starts next more ih =>
    refine List.pairwise_cons.2 ⟨?_, ih⟩
    intro b member
    cases starts with
    | nil => cases member
    | cons second starts =>
      have later := (rest_of_next? next).2 second more.head_eq
      exact lt_of_lt_of_le later (more.within more.head_eq b member).1

end Yields

theorem exists_yields {c : Cursor} (answers : ∀ s t, c.upcoming = some s → s ≤ t → t < c.stop →
    ∃ following, cal.next c.granularity t = .ok following) : ∃ starts, c.Yields cal starts := by
  cases run : c.next? cal with
  | error e =>
    unfold next? at run
    split at run
    · cases run
    · next current standing =>
      split at run
      · next before =>
        obtain ⟨following, next⟩ := answers current current standing (le_refl current) before
        rw [next] at run
        cases run
      · cases run
  | ok answer =>
    cases answer with
    | none => exact ⟨[], .ends run⟩
    | some item =>
      obtain ⟨t, rest⟩ := item
      have shorter := secondsLeft_next run
      obtain ⟨stop, later⟩ := rest_of_next? run
      obtain ⟨standing, _, _, _, same⟩ := next?_eq_some_iff.1 run
      have granularity : rest.granularity = c.granularity := by rw [same]
      obtain ⟨starts, more⟩ := exists_yields (c := rest) (by
        intro s u goes le before
        rw [granularity]
        exact answers t u standing (le_trans (le_of_lt (later s goes)) le) (stop ▸ before))
      exact ⟨t :: starts, .step run more⟩
termination_by c.secondsLeft

end Cursor

/-! ## Bucket starts -/

namespace Calendar

variable {cal : Calendar} {g : Granularity} {p : Period} {starts : List Instant}

/-- The bucket starts of a period are what the cursor before it yields. -/
theorem bucketStarts_eq_ok_iff :
    cal.bucketStarts g p = .ok starts ↔ (Cursor.ofPeriod g p).Yields cal starts := Cursor.toList_eq_ok_iff

/-- A period has bucket starts where the calendar has an answer for every instant in it. -/
theorem exists_bucketStarts
    (answers : ∀ t, p.start ≤ t → t < p.stop → ∃ following, cal.next g t = .ok following) :
    ∃ starts, cal.bucketStarts g p = .ok starts := by
  obtain ⟨starts, yields⟩ : ∃ starts, (Cursor.ofPeriod g p).Yields cal starts := by
    apply Cursor.exists_yields
    rintro s t ⟨⟩ le before
    exact answers t le before
  exact ⟨starts, bucketStarts_eq_ok_iff.2 yields⟩

theorem bucketCount_eq_ok_iff {n : Nat} :
    cal.bucketCount g p = .ok n ↔ ∃ starts, cal.bucketStarts g p = .ok starts ∧ starts.length = n := by
  simp only [bucketCount, bind_eq_ok_iff, pure_eq_ok_iff]

theorem bucketSequence_eq_ok_iff {s : BucketSequence} :
    cal.bucketSequence g p = .ok s ↔ ∃ starts, cal.bucketStarts g p = .ok starts ∧ ⟨g, p.timezone, starts⟩ = s := by
  simp only [bucketSequence, bind_eq_ok_iff, pure_eq_ok_iff]

/-- Where there are bucket starts, the period starts with the first. -/
theorem head?_bucketStarts (run : cal.bucketStarts g p = .ok starts) (nonempty : starts ≠ []) :
    starts.head? = some p.start := by
  cases starts with
  | nil => exact absurd rfl nonempty
  | cons first starts => exact (bucketStarts_eq_ok_iff.1 run).head_eq.symm

/-- A period has a bucket when it ends after its start. -/
theorem pos_bucketCount_iff {n : Nat} (count : cal.bucketCount g p = .ok n) : 0 < n ↔ p.start < p.stop := by
  obtain ⟨starts, run, rfl⟩ := bucketCount_eq_ok_iff.1 count
  have yields := bucketStarts_eq_ok_iff.1 run
  constructor
  · intro some_bucket
    obtain ⟨b, member⟩ := List.exists_mem_of_length_pos some_bucket
    obtain ⟨low, high⟩ := yields.within rfl b member
    exact lt_of_le_of_lt low high
  · intro later
    cases yields with
    | step _ _ => exact Nat.succ_pos _
    | ends done =>
      simp only [Cursor.next?, Cursor.ofPeriod, later, if_true] at done
      split at done
      · cases done
      · cases done

end Calendar

end BucketPlan
