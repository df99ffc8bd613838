import BucketPlan.Proofs.Moment.Line
import BucketPlan.Proofs.Runs
import BucketPlan.Zone.Catalog

/-!
Long before its first change and long after its last one a zone keeps one offset
(`Zone.Settled`), and a database is taken to have no other zones (`ZoneDatabase.Settles`). So at
either end of the representable years it is known which instants and local times lead to each
other: an instant has a local time as far as the clock shows one, and a local time is an instant
unless a clock that is ahead shows it before the first second.
-/

namespace BucketPlan

namespace Zone

/-- The second that the clock of a zone shows, representable or not. -/
def clock (z : Zone) (t : Instant) : Int := t.seconds + (z.offsetAt t).seconds

/-- What the clock shows is representable and no later than the last midnight. -/
structure Shows (z : Zone) (t : Instant) : Prop where
  first_le : firstSecond ≤ z.clock t
  le_midnight : z.clock t ≤ 86400 * lastDay

theorem shows_iff {z : Zone} {t : Instant} :
    z.Shows t ↔ -8334601228800 ≤ z.clock t ∧ z.clock t ≤ 8210266790400 :=
  ⟨fun shows => ⟨shows.first_le, shows.le_midnight⟩, fun within => ⟨within.1, within.2⟩⟩

theorem clock_near (z : Zone) (t : Instant) : t.seconds - 86400 < z.clock t ∧ z.clock t < t.seconds + 86400 := by
  have low := (z.offsetAt t).lower
  have high := (z.offsetAt t).upper
  unfold clock
  omega

theorem shows_of_inside (z : Zone) {t : Instant} (inside : t.InsideBy 2) : z.Shows t := by
  have near := z.clock_near t
  rw [Moment.insideBy_def] at inside
  rw [shows_iff]
  omega

/-! ## Local times of instants -/

/-- What the clock shows is the local time. -/
theorem toLocal_of_shows {z : Zone} {t : Instant} (shows : z.Shows t) :
    ∃ l, z.toLocal t = .ok l ∧ (¬ t.InLeapSecond → l.seconds = z.clock t ∧ l.nanos = t.nanos) := by
  have below : z.clock t < lastSecond := Int.lt_of_le_of_lt shows.le_midnight (by decide)
  obtain ⟨l, run⟩ := Moment.exists_addSeconds? (m := t) (d := (z.offsetAt t).seconds) shows.first_le
    (Int.le_of_lt below) (fun _ => below)
  exact ⟨l, Moment.plus_eq_ok_iff.2 run,
    fun plain => (Moment.addSeconds?_eq_some_iff (Nat.lt_of_not_le plain)).1 run⟩

/-- Where the clock is still before the first second there is no local time. -/
theorem toLocal_overflow {z : Zone} {t : Instant} (plain : ¬ t.InLeapSecond) (below : z.clock t < firstSecond) :
    z.toLocal t = .error .outOfRange := by
  rw [toLocal, Moment.plus, Moment.addSeconds?_eq_none plain below]
  rfl

/-! ## One offset at either end -/

/-- The offset of the first instant of all. -/
def firstOffset (z : Zone) : Offset := z.offsetAt (.midnight ⟨firstDay, by decide, by decide⟩)

/-- The zone answers for every local time, and it keeps one offset at either end of the
    representable years: before, and after, 10¹² seconds, which are 31688 years. -/
structure Settled (z : Zone) (early late : Offset) : Prop where
  total (l : WallTime) : ∃ offsets, z.offsetsFor l = .ok offsets
  early_at {t : Instant} (before : t.seconds < -1000000000000) : z.offsetAt t = early
  late_at {t : Instant} (after : 1000000000000 < t.seconds) : z.offsetAt t = late
  early_for {l : WallTime} (before : l.seconds < -1000000000000) : z.offsetsFor l = .ok (.once early)
  late_for {l : WallTime} (after : 1000000000000 < l.seconds) : z.offsetsFor l = .ok (.once late)

namespace Settled

variable {z : Zone} {early late : Offset} (settled : z.Settled early late) {a b t : Instant} {l : WallTime}
include settled

theorem firstOffset_eq : z.firstOffset = early := settled.early_at (by decide)

theorem clock_early (before : t.seconds < -1000000000000) : z.clock t = t.seconds + early.seconds := by
  rw [clock, settled.early_at before]

theorem clock_late (after : 1000000000000 < t.seconds) : z.clock t = t.seconds + late.seconds := by
  rw [clock, settled.late_at after]

theorem first_le_clock (first : firstSecond ≤ z.clock a) (le : a.seconds ≤ b.seconds) : firstSecond ≤ z.clock b := by
  rcases Int.lt_or_le b.seconds (-1000000000000) with before | near
  · have clockA := settled.clock_early (Int.lt_of_le_of_lt le before)
    have clockB := settled.clock_early before
    omega
  · have clockB := (z.clock_near b).1
    unfold firstSecond
    omega

/-- A clock that has not passed the last midnight had not passed it before. -/
theorem clock_le_midnight (last : z.clock b ≤ 86400 * lastDay) (le : a.seconds ≤ b.seconds) :
    z.clock a ≤ 86400 * lastDay := by
  rcases Int.lt_or_le 1000000000000 a.seconds with after | near
  · have clockA := settled.clock_late after
    have clockB := settled.clock_late (Int.lt_of_lt_of_le after le)
    omega
  · have clockA := (z.clock_near a).2
    unfold lastDay
    omega

theorem shows_between (showsA : z.Shows a) (showsB : z.Shows b) (at_le : a.seconds ≤ t.seconds)
    (le_b : t.seconds ≤ b.seconds) : z.Shows t :=
  ⟨settled.first_le_clock showsA.first_le at_le, settled.clock_le_midnight showsB.le_midnight le_b⟩

/-! ## Instants of local times -/

theorem exists_offsetFor (l : WallTime) : ∃ o, z.offsetFor l = .ok o := by
  obtain ⟨offsets, found⟩ := settled.total l
  cases offsets with
  | once o => exact ⟨o, by simp only [offsetFor, found, bind, Except.bind, pure, Except.pure]⟩
  | twice first second =>
    exact ⟨if second.seconds ≤ first.seconds then first else second,
      by simp only [offsetFor, found, bind, Except.bind, pure, Except.pure]⟩
  | skipped =>
    -- Only near the changes is a local time skipped, and there the day before exists.
    have near : -1000000000000 ≤ l.seconds ∧ l.seconds ≤ 1000000000000 := by
      by_contra far
      rcases Int.lt_or_le l.seconds (-1000000000000) with before | _
      · rw [settled.early_for before] at found
        cases found
      · rw [settled.late_for (by omega)] at found
        cases found
    obtain ⟨before, run⟩ := Moment.exists_addSeconds? (m := l) (d := -86400)
      (by unfold firstSecond; omega) (by unfold lastSecond; omega) (fun _ => by unfold lastSecond; omega)
    have moved : l.plus (-86400) = .ok before := Moment.plus_eq_ok_iff.2 run
    exact ⟨z.offsetAt before, by simp only [offsetFor, found, moved, bind, Except.bind, pure, Except.pure]⟩

theorem offsetFor_early (before : l.seconds < -1000000000000) : z.offsetFor l = .ok early := by
  simp only [offsetFor, settled.early_for before, bind, Except.bind, pure, Except.pure]

theorem offsetFor_late (after : 1000000000000 < l.seconds) : z.offsetFor l = .ok late := by
  simp only [offsetFor, settled.late_for after, bind, Except.bind, pure, Except.pure]

/-- A local time is an instant, unless a clock that is ahead shows it before the first second; at
    either end it is the one at which the clock shows it. -/
theorem ofLocal_of_le (whole : l.nanos = 0) (low : firstSecond + early.seconds ≤ l.seconds)
    (high : l.seconds ≤ 86400 * lastDay) :
    ∃ t, z.ofLocal l = .ok t ∧ t.nanos = 0 ∧ z.Shows t ∧ l.seconds - 86400 < t.seconds ∧
      t.seconds < l.seconds + 86400 ∧
      (l.seconds < -1100000000000 ∨ 1100000000000 < l.seconds → z.clock t = l.seconds) := by
  obtain ⟨o, reads⟩ := settled.exists_offsetFor l
  have lowO := o.lower
  have highO := o.upper
  have bounds := l.seconds_bounds
  have isEarly : l.seconds < -1000000000000 → o = early := by
    intro before
    rw [settled.offsetFor_early before] at reads
    exact (Except.ok.inj reads).symm
  have isLate : 1000000000000 < l.seconds → o = late := by
    intro after
    rw [settled.offsetFor_late after] at reads
    exact (Except.ok.inj reads).symm
  have room : firstSecond ≤ l.seconds + -o.seconds ∧ l.seconds + -o.seconds ≤ lastSecond := by
    unfold firstSecond lastSecond
    unfold firstSecond at low
    unfold lastDay at high
    rcases Int.lt_or_le l.seconds (-1000000000000) with before | _
    · rw [isEarly before] at lowO highO ⊢
      omega
    · omega
  have plain : ¬ l.InLeapSecond := Moment.plain_of_whole whole
  obtain ⟨t, run⟩ := Moment.exists_addSeconds? room.1 room.2 fun leap => absurd leap plain
  obtain ⟨seconds, nanos⟩ := (Moment.addSeconds?_eq_some_iff (Nat.lt_of_not_le plain)).1 run
  have near := z.clock_near t
  have exact : l.seconds < -1100000000000 ∨ 1100000000000 < l.seconds → z.clock t = l.seconds := by
    rintro (before | after)
    · rw [settled.clock_early (by omega), ← isEarly (by omega)]
      omega
    · rw [settled.clock_late (by omega), ← isLate (by omega)]
      omega
  refine ⟨t, ?_, nanos.trans whole, ?_, by omega, by omega, exact⟩
  · simp only [ofLocal, reads, bind, Except.bind]
    exact Moment.plus_eq_ok_iff.2 run
  · rw [shows_iff]
    unfold firstSecond at low
    unfold lastDay at high
    by_cases far : l.seconds < -1100000000000 ∨ 1100000000000 < l.seconds
    · rw [exact far]
      omega
    · omega

theorem ofLocal_overflow (whole : l.nanos = 0) (below : l.seconds < firstSecond + early.seconds) :
    z.ofLocal l = .error .outOfRange := by
  have upper := early.upper
  have reads := settled.offsetFor_early (l := l) (by unfold firstSecond at below; omega)
  have none : l.addSeconds? (-early.seconds) = none :=
    Moment.addSeconds?_eq_none (Moment.plain_of_whole whole) (by omega)
  simp only [ofLocal, reads, bind, Except.bind, Offset.instant, Moment.plus, none]
  rfl

end Settled

end Zone

/-! ## Tabulated zones -/

namespace ZoneTable

/-- The offset after all changes. -/
def lastOffset (current : Offset) (changes : List OffsetChange) : Offset :=
  changes.foldl (fun _ c => c.offset) current

variable {changes : List OffsetChange} {second : Int}

theorem offsetAtSecond_early (current : Offset) (before : ∀ c ∈ changes, second < c.start) :
    offsetAtSecond current second changes = current := by
  cases changes with
  | nil => rfl
  | cons c rest => rw [offsetAtSecond, if_neg (Int.not_le.2 (before c List.mem_cons_self))]

theorem offsetAtSecond_late (current : Offset) (after : ∀ c ∈ changes, c.start ≤ second) :
    offsetAtSecond current second changes = lastOffset current changes := by
  induction changes generalizing current with
  | nil => rfl
  | cons c rest ih =>
    rw [offsetAtSecond, if_pos (after c List.mem_cons_self)]
    exact ih c.offset fun d member => after d (List.mem_cons_of_mem c member)

theorem offsetsForSecond_unreached {start : Int} (current : Offset) (later : second + 86400 ≤ start)
    (before : ∀ c ∈ changes, second + 86400 ≤ c.start) :
    offsetsForSecond (some start) current second changes = [] := by
  induction changes generalizing start current with
  | nil =>
    have lower := current.lower
    have unreached : ¬ start + current.seconds ≤ second := by omega
    simp only [offsetsForSecond, offsetsForSecond.reached, unreached, decide_false, Bool.false_eq_true, if_false]
  | cons c rest ih =>
    have lower := current.lower
    have unreached : ¬ start + current.seconds ≤ second := by omega
    have more := ih c.offset (before c List.mem_cons_self) fun d member => before d (List.mem_cons_of_mem c member)
    simp only [offsetsForSecond, offsetsForSecond.reached, unreached, decide_false, Bool.false_and,
      Bool.false_eq_true, if_false, more]

theorem offsetsForSecond_early (current : Offset) (before : ∀ c ∈ changes, second + 86400 ≤ c.start) :
    offsetsForSecond none current second changes = [current] := by
  cases changes with
  | nil => simp only [offsetsForSecond, offsetsForSecond.reached, if_true]
  | cons c rest =>
    have lower := current.lower
    have start := before c List.mem_cons_self
    have shown : second < c.start + current.seconds := by omega
    have more := offsetsForSecond_unreached c.offset start fun d member => before d (List.mem_cons_of_mem c member)
    simp only [offsetsForSecond, offsetsForSecond.reached, shown, decide_true, Bool.and_true, if_true, more]

theorem offsetsForSecond_late {start : Option Int} (current : Offset)
    (begun : offsetsForSecond.reached start current second = true) (after : ∀ c ∈ changes, c.start + 86400 ≤ second) :
    offsetsForSecond start current second changes = [lastOffset current changes] := by
  induction changes generalizing start current with
  | nil => simp only [offsetsForSecond, begun, if_true, lastOffset, List.foldl_nil]
  | cons c rest ih =>
    have upper := current.upper
    have upperC := c.offset.upper
    have passed := after c List.mem_cons_self
    have past : ¬ second < c.start + current.seconds := by omega
    have next : offsetsForSecond.reached (some c.start) c.offset second = true :=
      decide_eq_true (by omega)
    have more := ih c.offset next fun d member => after d (List.mem_cons_of_mem c member)
    simp only [offsetsForSecond, past, decide_false, Bool.and_false, Bool.false_eq_true, if_false, more,
      lastOffset, List.foldl_cons]

/-- A table whose changes lie within three thousand years of 1970 is settled. -/
theorem settled {z : ZoneTable} (near : ∀ c ∈ z.changes, -100000000000 ≤ c.start ∧ c.start ≤ 100000000000) :
    z.zone.Settled z.base (lastOffset z.base z.changes) where
  total l := ⟨z.offsetsFor l, rfl⟩
  early_at before := offsetAtSecond_early z.base fun c member => by have := near c member; omega
  late_at after := offsetAtSecond_late z.base fun c member => by have := near c member; omega
  early_for {l} before := by
    have one : offsetsForSecond none z.base l.seconds z.changes = [z.base] :=
      offsetsForSecond_early z.base fun c member => by have := near c member; omega
    simp only [zone, offsetsFor, one]
  late_for {l} after := by
    have one : offsetsForSecond none z.base l.seconds z.changes = [lastOffset z.base z.changes] :=
      offsetsForSecond_late z.base rfl fun c member => by have := near c member; omega
    simp only [zone, offsetsFor, one]

end ZoneTable

/-! ## Databases -/

namespace ZoneDatabase

variable {zones : ZoneDatabase}

/-- Every zone of the database answers for all local times and keeps one offset at either end of
    the representable years. Recorded changes lie within some hundred years of 1970, so the bounds
    of `Zone.Settled` are far from all of them. -/
def Settles (zones : ZoneDatabase) : Prop :=
  ∀ name z, zones.find? name = some z → ∃ early late, z.Settled early late

theorem find?_of_named? {raw : String} {z : Zone} (named : zones.named? raw = some z) :
    zones.find? (Blank.trimText raw) = some z := by
  unfold named? at named
  split at named
  · cases named
  · exact named

theorem Settles.settled_of_named? (settles : zones.Settles) {raw : String} {z : Zone}
    (named : zones.named? raw = some z) : ∃ late, z.Settled z.firstOffset late := by
  obtain ⟨early, late, settled⟩ := settles _ z (find?_of_named? named)
  exact ⟨late, settled.firstOffset_eq ▸ settled⟩

/-- The zones of the catalog changed their offsets, and will change them, within three thousand years of 1970. -/
theorem ofCatalog_settles : ofCatalog.Settles := by
  have recorded : ∀ entry ∈ ZoneRecord.catalog, ∀ c ∈ entry.2.lines.flatMap ZoneLine.changes,
      -100000000000 ≤ c.start ∧ c.start ≤ 100000000000 := by decide +kernel
  intro name z found
  obtain ⟨record, recordFound, rfl⟩ := Option.map_eq_some_iff.1 found
  obtain ⟨before, after, catalog, _⟩ := List.lookup_eq_some_iff.1 recordFound
  exact ⟨_, _, ZoneTable.settled (recorded (name, record) (by rw [catalog]; simp))⟩

end ZoneDatabase

end BucketPlan
