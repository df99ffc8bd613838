import BucketPlan.Proofs.Bucket.Openings
import BucketPlan.Proofs.Calendar.ClockOrder
import BucketPlan.Proofs.Period.Alignment

/-!
Weeks and months are computed from local dates and days from local dates again, minutes
and hours by the clock. Still the coarse buckets are made of whole fine ones: with offsets
less than a day apart a bucket of weeks or months opens where one of its days dawns, and
as many days dawn in it as it has dates (`countP_days`); where the switches keep whole
hours, the hour that a minute lies in is the hour of all its seconds (`unitFloor_hour`).
-/

namespace BucketPlan

/-- The number of days of the bucket that begins with a date. -/
def Granularity.lengthInDays (g : Granularity) (d : Date) : Nat :=
  match g with
  | .week => 7
  | .month => daysInMonth d.civil.year d.civil.month
  | _ => 1

theorem Granularity.leadDay_succ {g : Granularity} {weekStart : Weekday} {i : Int} {d : Date}
    (leads : d.day = g.leadDay weekStart i) : g.leadDay weekStart (i + 1) = d.day + g.lengthInDays d := by
  cases g with
  | week => simp only [leadDay, lengthInDays] at *; omega
  | month =>
    have index : (Civil.ofDay d.day).monthIndex = i := by rw [leads]; exact Civil.monthIndex_monthStart i
    have length := Civil.monthLength_monthIndex d.day
    have next := monthStart_succ i
    rw [index] at length
    simp only [leadDay, lengthInDays, Date.civil] at *
    omega
  | minute | hour | day => simp only [leadDay, lengthInDays] at *; omega

theorem countP_range_between (a b n : Int) (m : Nat) :
    ((List.range m).countP fun k : Nat => decide (a ≤ n + k ∧ n + k < b) : Int) =
      max 0 (min b (n + m) - max a n) := by
  induction m with
  | zero => simp
  | succ m ih =>
    rw [List.range_succ, List.countP_append, Int.natCast_add, ih, List.countP_singleton]
    by_cases between : a ≤ n + m ∧ n + (m : Int) < b
    · rw [if_pos (decide_eq_true between)]
      omega
    · rw [if_neg (by simpa using between)]
      omega

namespace FixedRule

variable {r : FixedRule} {g : Granularity} (weekStart : Weekday)

/-! ## Days in weeks and months -/

section Days
variable (lasting : r.Lasting) (narrow : r.Narrow)
include lasting narrow

omit lasting narrow in
theorem nanos_of_opening {b : Instant} {i : Int} (opens : b.place = r.opening g weekStart i) : b.nanos = 0 := by
  have small := b.nanos_lt
  unfold opening dawn resolved Moment.place at opens
  omega

/-- Of the days that dawn one after the other, as many lie in a bucket as it has dates. -/
theorem countP_days {b following : Instant} {days : List Instant} {d : Date} {n : Int} {m : Nat} {i : Int}
    (leads : d.day = g.leadDay weekStart i) (opens : b.place = r.opening g weekStart i)
    (closes : following.place = r.opening g weekStart (i + 1)) (low : n ≤ g.leadDay weekStart i)
    (high : g.leadDay weekStart (i + 1) ≤ n + m)
    (dawns : days.map Moment.place = (List.range m).map fun k : Nat => r.dawn (n + k)) :
    days.countP (fun x => decide (b ≤ x ∧ x < following)) = g.lengthInDays d := by
  have length := Granularity.leadDay_succ leads
  have places : days.countP (fun x => decide (b ≤ x ∧ x < following)) =
      (days.map Moment.place).countP fun x => decide (b.place ≤ x ∧ x < following.place) := by
    rw [List.countP_map]
    congr 1
    funext x
    simp only [Function.comp_apply, Moment.le_iff_place, Moment.lt_iff_place]
  have numbers : (List.range m).countP ((fun x => decide (b.place ≤ x ∧ x < following.place)) ∘
        fun k : Nat => r.dawn (n + k)) =
      (List.range m).countP fun k : Nat => decide (g.leadDay weekStart i ≤ n + k ∧ n + k < g.leadDay weekStart (i + 1)) := by
    congr 1
    funext k
    simp only [Function.comp_apply, opens, closes, opening, ← Int.not_lt, dawn_lt_iff lasting narrow]
  rw [places, dawns, List.countP_map, numbers]
  have count := countP_range_between (g.leadDay weekStart i) (g.leadDay weekStart (i + 1)) n m
  omega

variable (byDate : g.unitSeconds? = none)
include byDate

theorem boundary_day {b : Instant} (inside : b.InsideBy 40) (boundary : (r.calendar weekStart).Boundary g b) :
    (r.calendar weekStart).Boundary .day b :=
  boundary_of_place weekStart rfl lasting narrow inside boundary.nanos (boundary_place weekStart byDate inside boundary)

theorem floor_floor_day {x : Instant} (inside : x.InsideBy 80) (plain : ¬ x.InLeapSecond) :
    ∃ d f, (r.calendar weekStart).floor .day x = .ok d ∧ (r.calendar weekStart).floor g d = .ok f ∧
      (r.calendar weekStart).floor g x = .ok f := by
  obtain ⟨d, _, floorDay, placeD, exactD⟩ := floor_calendar r weekStart (g := .day) rfl (inside.mono 40 (by decide))
  obtain ⟨f, _, floor, placeF, exactF⟩ := floor_calendar r weekStart byDate (inside.mono 40 (by decide))
  have wholeD := Calendar.floor_nanos floorDay
  obtain ⟨e, _, again, placeE, exactE⟩ := floor_calendar r weekStart byDate (t := d)
    (Calendar.floor_inside floorDay inside 40 (by decide))
  have sameDay : r.dayAt d.place = r.dayAt x.place := by
    rw [placeD, exactD plain, opening, dayAt_dawn lasting narrow]
    rfl
  have same : e = f := Moment.place_injective (by
    rw [placeE, placeF, exactE (Moment.plain_of_whole wholeD), exactF plain, bucketAt, bucketAt, sameDay])
  exact ⟨d, e, floorDay, again, same ▸ floor⟩

theorem dayAt_boundary {b : Instant} (inside : b.InsideBy 40) (boundary : (r.calendar weekStart).Boundary g b) :
    r.dayAt b.place = g.leadDay weekStart (r.bucketAt g weekStart b.place) := by
  have opens := boundary_place weekStart byDate inside boundary
  generalize r.bucketAt g weekStart b.place = i at opens
  rw [opens, opening, dayAt_dawn lasting narrow]

/-- The day starts of a normalized period have all its bucket starts among them, and as
    many of them lie in a bucket as it has dates. -/
theorem exists_days_of_normalize {rawStart rawStop : Instant} {p : Period}
    (normalized : (r.calendar weekStart).normalize g rawStart rawStop = .ok p)
    (inside : p.start.InsideBy Moment.quarterCentury) :
    ∃ days starts, (r.calendar weekStart).bucketStarts .day p = .ok days ∧
      (r.calendar weekStart).bucketStarts g p = .ok starts ∧ ∀ b ∈ starts, b ∈ days ∧
        ∃ following d, (r.calendar weekStart).next g b = .ok (some following) ∧
          (r.calendar weekStart).dateOf b = .ok d ∧
          days.countP (fun x => decide (b ≤ x ∧ x < following)) = g.lengthInDays d := by
  obtain ⟨insideStart, insideStop, _, _⟩ := Calendar.normalize_inside normalized inside
  have nearStart : p.start.InsideBy 80 := insideStart.mono 80 (by decide)
  have nearStop : p.stop.InsideBy 80 := insideStop.mono 80 (by decide)
  obtain ⟨first, last, bounded⟩ := alignedPeriod_of_normalize (fun _ => ⟨lasting, narrow⟩)
    ⟨insideStart.mono 200 (by decide), insideStop.mono 200 (by decide)⟩ normalized
  have order := le_of_lt (Calendar.AlignedPeriod.start_lt_stop ⟨first, last, bounded⟩)
  obtain ⟨starts, m, listed, _, places⟩ :=
    exists_bucketStarts_openings lasting narrow weekStart byDate first last order nearStart nearStop
  obtain ⟨days, n, listedDays, lastDay, dawns⟩ : ∃ days n, (r.calendar weekStart).bucketStarts .day p = .ok days ∧
      r.dayAt p.stop.place = r.dayAt p.start.place + (n : Nat) ∧
      days.map Moment.place = (List.range n).map fun k : Nat => r.dawn (r.dayAt p.start.place + k) :=
    exists_bucketStarts_openings lasting narrow weekStart (g := .day) rfl
      (boundary_day weekStart lasting narrow byDate (nearStart.mono 40 (by decide)) first)
      (boundary_day weekStart lasting narrow byDate (nearStop.mono 40 (by decide)) last) order nearStart nearStop
  -- The days of the period are those from the first day of its first bucket on.
  have startDay := dayAt_boundary weekStart lasting narrow byDate (nearStart.mono 40 (by decide)) first
  have stopDay := dayAt_boundary weekStart lasting narrow byDate (nearStop.mono 40 (by decide)) last
  have opensStop := boundary_place weekStart byDate (nearStop.mono 40 (by decide)) last
  refine ⟨days, starts, listedDays, listed, ?_⟩
  intro b member
  obtain ⟨since, before⟩ : p.start ≤ b ∧ b < p.stop :=
    (Calendar.bucketStarts_eq_ok_iff.1 listed).within rfl b member
  have near : b.InsideBy 80 := nearStart.between nearStop since (le_of_lt before)
  obtain ⟨k, _, opens⟩ := List.mem_map.1 (places ▸ List.mem_map_of_mem member)
  generalize number : r.bucketAt g weekStart p.start.place + (k : Int) = i at opens
  have boundary := boundary_of_place weekStart byDate lasting narrow (near.mono 40 (by decide))
    (nanos_of_opening weekStart opens.symm) opens.symm
  obtain ⟨following, next, _, closes⟩ := next_place weekStart byDate lasting narrow near boundary
  rw [← opens, bucketAt_opening lasting narrow] at closes
  obtain ⟨d, date, day⟩ := dateOf_spec r weekStart (near.mono 1 (by decide))
  have leads : d.day = g.leadDay weekStart i := by
    rw [day boundary.plain, ← opens, opening, dayAt_dawn lasting narrow]
  have low : g.leadDay weekStart (r.bucketAt g weekStart p.start.place) ≤ g.leadDay weekStart i :=
    Granularity.leadDay_le_leadDay_iff.2 (by omega)
  have high : g.leadDay weekStart (i + 1) ≤ g.leadDay weekStart (r.bucketAt g weekStart p.stop.place) := by
    rw [Moment.lt_iff_place, ← opens, opensStop, opening_lt_iff lasting narrow] at before
    exact Granularity.leadDay_le_leadDay_iff.2 before
  have some_day := (Granularity.leadDay_succ_bounds g weekStart i).1
  refine ⟨?_, following, d, next, date, ?_⟩
  · have dawn : b.place ∈ days.map Moment.place := by
      rw [dawns]
      refine List.mem_map.2 ⟨(g.leadDay weekStart i - r.dayAt p.start.place).toNat, List.mem_range.2 (by omega), ?_⟩
      rw [← opens, opening]
      congr 1
      omega
    obtain ⟨x, isDay, same⟩ := List.mem_map.1 dawn
    rwa [← Moment.place_injective same]
  · exact countP_days weekStart lasting narrow leads opens.symm closes (by omega) (by omega) dawns

end Days

/-! ## Minutes in hours -/

theorem onUnit_minute {b : Int} (on : r.OnUnit 3600 b) : r.OnUnit 60 b := by
  unfold OnUnit beyond at *
  omega

theorem keepsUnits_minute {s : Switch} (keeps : s.KeepsUnits 3600) : s.KeepsUnits 60 := by
  unfold Switch.KeepsUnits at *
  omega

section ByClock
variable (lasting : r.Lasting) (whole : ∀ s ∈ r.switches, s.instant.nanos = 0)
  (keeps : ∀ s ∈ r.switches, s.KeepsUnits 3600)
include lasting whole keeps

/-- The last whole hour at or before a second is the last one at or before its minute. -/
theorem unitFloor_hour (n : Int) : r.unitFloor 3600 (r.unitFloor 60 n) = r.unitFloor 3600 n := by
  have keepsMinutes : ∀ s ∈ r.switches, s.KeepsUnits 60 := fun s member => keepsUnits_minute (keeps s member)
  have hour := unitFloor_bounds (r := r) (.inr rfl) n
  have minute := unitFloor_bounds (r := r) (.inl rfl) n
  have onHour := onUnit_unitFloor (r := r) (.inr rfl) n
  apply Int.le_antisymm
  · have both := unitFloor_bounds (r := r) (.inr rfl) (r.unitFloor 60 n)
    exact le_unitFloor (.inr rfl) lasting whole keeps (onUnit_unitFloor (.inr rfl) _) (by omega)
  · -- The whole hour is a whole minute too, so it is not after the last one.
    have earlier := le_unitFloor (.inl rfl) lasting whole keepsMinutes (onUnit_minute onHour) hour.2
    exact le_unitFloor (.inr rfl) lasting whole keeps onHour earlier

theorem floor_floor_minute {x : Instant} (inside : x.InsideBy 80) :
    ∃ m h, (r.calendar weekStart).floor .minute x = .ok m ∧ (r.calendar weekStart).floor .hour m = .ok h ∧
      (r.calendar weekStart).floor .hour x = .ok h := by
  obtain ⟨m, floorMinute, secondsM, _⟩ := floor_clock (r := r) weekStart (g := .minute) rfl (inside.mono 1 (by decide))
  obtain ⟨h, floorHour, secondsH, wholeH⟩ := floor_clock (r := r) weekStart (g := .hour) rfl (inside.mono 1 (by decide))
  obtain ⟨e, again, secondsE, wholeE⟩ := floor_clock (r := r) weekStart (g := .hour) rfl (t := m)
    (Calendar.floor_inside floorMinute inside 1 (by decide))
  have same : e = h := Moment.eq_of_seconds wholeE wholeH (by
    rw [secondsE, secondsH, secondsM, unitFloor_hour lasting whole keeps])
  exact ⟨m, e, floorMinute, again, same ▸ floorHour⟩

end ByClock

/-! ## Every granularity -/

/-- Weeks and months are made of whole days, and where the switches keep whole hours, hours
    of whole minutes. -/
theorem granularities_nest (lasting : r.Lasting) (narrow : r.Narrow) :
    (∀ g, g = .week ∨ g = .month →
      (∀ b : Instant, b.InsideBy Moment.quarterCentury → (r.calendar weekStart).isBoundary g b = .ok true →
        (r.calendar weekStart).isBoundary .day b = .ok true) ∧
      (∀ x : Instant, x.InsideBy Moment.quarterCentury → ¬ x.InLeapSecond →
        ∃ d f, (r.calendar weekStart).floor .day x = .ok d ∧ (r.calendar weekStart).floor g d = .ok f ∧
          (r.calendar weekStart).floor g x = .ok f) ∧
      ∀ rawStart rawStop p, (r.calendar weekStart).normalize g rawStart rawStop = .ok p →
        p.start.InsideBy Moment.quarterCentury →
        ∃ days buckets, (r.calendar weekStart).bucketSequence .day p = .ok days ∧
          (r.calendar weekStart).bucketSequence g p = .ok buckets ∧ ∀ b ∈ buckets.starts, b ∈ days.starts ∧
            ∃ following d, (r.calendar weekStart).next g b = .ok (some following) ∧
              (r.calendar weekStart).dateOf b = .ok d ∧
              days.starts.countP (fun x => decide (b ≤ x ∧ x < following)) = g.lengthInDays d) ∧
    ((∀ s ∈ r.switches, s.instant.nanos = 0) → (∀ s ∈ r.switches, s.KeepsUnits 3600) →
      (∀ b : Instant, b.InsideBy Moment.quarterCentury → (r.calendar weekStart).isBoundary .hour b = .ok true →
        (r.calendar weekStart).isBoundary .minute b = .ok true) ∧
      ∀ x : Instant, x.InsideBy Moment.quarterCentury →
        ∃ m h, (r.calendar weekStart).floor .minute x = .ok m ∧ (r.calendar weekStart).floor .hour m = .ok h ∧
          (r.calendar weekStart).floor .hour x = .ok h) := by
  constructor
  · intro g coarse
    have byDate : g.unitSeconds? = none := by rcases coarse with rfl | rfl <;> rfl
    refine ⟨?_, ?_, ?_⟩
    · intro b inside boundary
      rw [Calendar.isBoundary_iff] at *
      exact boundary_day weekStart lasting narrow byDate (inside.mono 40 (by decide)) boundary
    · intro x inside plain
      exact floor_floor_day weekStart lasting narrow byDate (inside.mono 80 (by decide)) plain
    · intro rawStart rawStop p normalized inside
      obtain ⟨days, starts, listedDays, listed, nested⟩ :=
        exists_days_of_normalize weekStart lasting narrow byDate normalized inside
      exact ⟨⟨.day, p.timezone, days⟩, ⟨g, p.timezone, starts⟩,
        Calendar.bucketSequence_eq_ok_iff.2 ⟨days, listedDays, rfl⟩,
        Calendar.bucketSequence_eq_ok_iff.2 ⟨starts, listed, rfl⟩, nested⟩
  · intro whole keeps
    constructor
    · intro b inside boundary
      rw [Calendar.isBoundary_iff] at *
      have near : b.InsideBy 1 := inside.mono 1 (by decide)
      obtain ⟨nanos, on⟩ := (boundary_iff_onUnit weekStart (g := .hour) rfl near).1 boundary
      exact (boundary_iff_onUnit weekStart (g := .minute) rfl near).2 ⟨nanos, onUnit_minute on⟩
    · intro x inside
      exact floor_floor_minute weekStart lasting whole keeps (inside.mono 80 (by decide))

/-- The beginning of the Monday after the short day of New York. -/
def mondayAfter : Instant := (Moment.ofSeconds? 1710129600).get (by decide)

/-- Half past eight in the morning of that Monday. -/
def mondayMorning : Instant := (Moment.ofSeconds? 1710160230).get (by decide)

/-- February and March of 2024 in New York, and the Monday after the clock was put forward. -/
theorem newYork2024_nested :
    (newYork2024.calendar .monday).isBoundary .day mondayAfter = .ok true ∧
    (newYork2024.calendar .monday).isBoundary .minute mondayAfter = .ok true ∧
    (∃ d f, (newYork2024.calendar .monday).floor .day mondayMorning = .ok d ∧
      (newYork2024.calendar .monday).floor .week d = .ok f ∧
      (newYork2024.calendar .monday).floor .week mondayMorning = .ok f) ∧
    (∃ m h, (newYork2024.calendar .monday).floor .minute mondayMorning = .ok m ∧
      (newYork2024.calendar .monday).floor .hour m = .ok h ∧
      (newYork2024.calendar .monday).floor .hour mondayMorning = .ok h) ∧
    ∃ p days buckets, (newYork2024.calendar .monday).normalize .month (.midnight ⟨19763, by decide, by decide⟩)
        (.midnight ⟨19793, by decide, by decide⟩) = .ok p ∧
      (newYork2024.calendar .monday).bucketSequence .day p = .ok days ∧
      (newYork2024.calendar .monday).bucketSequence .month p = .ok buckets ∧ ∀ b ∈ buckets.starts, b ∈ days.starts ∧
        ∃ following d, (newYork2024.calendar .monday).next .month b = .ok (some following) ∧
          (newYork2024.calendar .monday).dateOf b = .ok d ∧
          days.starts.countP (fun x => decide (b ≤ x ∧ x < following)) = Granularity.month.lengthInDays d := by
  have regular := regular_newYork2024 .hour
  obtain ⟨byDate, byClock⟩ := granularities_nest .monday regular.lasting regular.narrow
  obtain ⟨hourIsMinute, hours⟩ := byClock regular.wholeSeconds (regular.keepsUnits 3600 rfl)
  have normalized : (newYork2024.calendar .monday).normalize .month (.midnight ⟨19763, by decide, by decide⟩)
      (.midnight ⟨19793, by decide, by decide⟩) = .ok ⟨(Moment.ofSeconds? 1706763600).get (by decide),
        (Moment.ofSeconds? 1711944000).get (by decide), "America/New_York"⟩ := by decide +kernel
  obtain ⟨days, buckets, nested⟩ := (byDate .month (.inr rfl)).2.2 _ _ _ normalized (by decide)
  refine ⟨?_, ?_, ?_, hours mondayMorning (by decide), _, days, buckets, normalized, nested⟩
  · exact (byDate .week (.inl rfl)).1 mondayAfter (by decide) (by decide +kernel)
  · exact hourIsMinute mondayAfter (by decide) (by decide +kernel)
  · exact (byDate .week (.inl rfl)).2.1 mondayMorning (by decide) (by decide)

end FixedRule

end BucketPlan
