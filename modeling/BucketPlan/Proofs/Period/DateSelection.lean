import BucketPlan.Proofs.Bucket.Openings
import BucketPlan.Proofs.Period.Coverage
import BucketPlan.Proofs.Period.EarlyCheck
import BucketPlan.Service.App

namespace BucketPlan

theorem Calendar.readSelection_of_none {cal : Calendar} {now : Instant} {lookback : Nat} {since today : Date}
    {start stop : Instant} (date : cal.dateOf now = .ok today) (back : today.addDays? (-(lookback : Int)) = some since)
    (spans : cal.SpansDates since today start stop) : cal.readSelection now lookback none none = .ok (start, stop) := by
  have first : daysBefore today lookback = .ok since := orOverflow_eq_ok_iff.2 back
  have opens : Overflow.lift (cal.dayStart since) = .ok start := Overflow.lift_eq_ok_iff.2 spans.opens
  have closes : Overflow.lift (cal.dayEnd today) = .ok stop := Overflow.lift_eq_ok_iff.2 spans.closes
  refine bind_eq_ok_iff.2 ⟨today, Overflow.monadLift_eq_ok_iff.2 date, ?_⟩
  refine bind_eq_ok_iff.2 ⟨none, rfl, ?_⟩
  refine bind_eq_ok_iff.2 ⟨since, Overflow.monadLift_eq_ok_iff.2 first, ?_⟩
  refine bind_eq_ok_iff.2 ⟨start, opens, ?_⟩
  refine bind_eq_ok_iff.2 ⟨none, rfl, ?_⟩
  exact bind_eq_ok_iff.2 ⟨stop, closes, rfl⟩

namespace FixedRule

variable {r : FixedRule} {g : Granularity} (weekStart : Weekday)

/-- Buckets cut by the calendar ask nothing more of a rule than others do. -/
theorem Regular.byDate {h : Granularity} (regular : r.Regular h) (byDate : g.unitSeconds? = none) : r.Regular g :=
  ⟨regular.lasting, regular.narrow, regular.wholeSeconds, regular.sparesMidnights, by simp [byDate]⟩

/-! ## Buckets of dates -/

section ByDate
variable (byDate : g.unitSeconds? = none) (lasting : r.Lasting) (narrow : r.Narrow)
include byDate lasting narrow

theorem exists_floor_dawn {t : Instant} (inside : t.InsideBy 80) (whole : t.nanos = 0) {d : Int}
    (dawns : t.place = r.dawn d) :
    ∃ f, (r.calendar weekStart).floor g t = .ok f ∧ (r.calendar weekStart).Boundary g f ∧
      f.place = r.opening g weekStart (g.leadIndex weekStart d) := by
  obtain ⟨f, i, floor, place, exact⟩ := floor_calendar r weekStart byDate (inside.mono 40 (by decide))
  rw [exact (Moment.plain_of_whole whole), dawns, bucketAt, dayAt_dawn lasting narrow] at place
  have insideF := Calendar.floor_inside floor inside 40 (by decide)
  exact ⟨f, floor, boundary_of_place weekStart byDate lasting narrow insideF (Calendar.floor_nanos floor) place, place⟩

theorem exists_ceil_dawn {t : Instant} (inside : t.InsideBy 120) (whole : t.nanos = 0) {d : Int}
    (dawns : t.place = r.dawn (d + 1)) :
    ∃ c, (r.calendar weekStart).ceil g t = .ok c ∧ (r.calendar weekStart).Boundary g c ∧
      c.place = r.opening g weekStart (g.leadIndex weekStart d + 1) := by
  obtain ⟨f, floor, isF, opens⟩ :=
    exists_floor_dawn weekStart byDate lasting narrow (inside.mono 80 (by decide)) whole dawns
  have following := Granularity.leadIndex_succ g weekStart d
  have leads : f = t ↔ g.leadDay weekStart (g.leadIndex weekStart (d + 1)) = d + 1 := by
    rw [← dawn_inj lasting narrow, ← opening, ← opens, ← dawns]
    exact ⟨fun same => by rw [same], Moment.place_injective⟩
  by_cases same : f = t
  · have next := leads.1 same
    refine ⟨t, (same ▸ isF).ceil, same ▸ isF, ?_⟩
    rw [← same, opens]
    congr 1
    omega
  · have within := mt leads.2 same
    obtain ⟨n, next, isN, place⟩ := next_place weekStart byDate lasting narrow
      (Calendar.floor_inside floor inside 80 (by decide)) isF
    have ceil := Calendar.ceil_of_floor floor next
    rw [if_neg same] at ceil
    refine ⟨n, ceil, isN, ?_⟩
    rw [place, opens, bucketAt_opening lasting narrow]
    congr 1
    omega

/-- A span of dates is normalized when the buckets from that of its first date to that of
    its last date are not too many. -/
theorem normalize_span_iff {first last : Date} {start stop : Instant}
    (spans : (r.calendar weekStart).SpansDates first last start stop) (low : firstDay + 200 ≤ first.day)
    (high : last.day + 200 ≤ lastDay) :
    (∃ p, (r.calendar weekStart).normalize g start stop = .ok p) ↔
      g.leadIndex weekStart last.day - g.leadIndex weekStart first.day + 1 ≤ g.bounds.maxBuckets := by
  have order := spans.order
  obtain ⟨⟨dawns, wholeStart⟩, ends, wholeStop⟩ := places_of_spansDates weekStart spans (by omega) (by omega)
  obtain ⟨insideStart, insideStop⟩ := inside_of_spansDates weekStart spans 160 (by decide) (by omega) (by omega)
  obtain ⟨f, floor, isF, opens⟩ :=
    exists_floor_dawn weekStart byDate lasting narrow (insideStart.mono 80 (by decide)) wholeStart dawns
  obtain ⟨c, ceil, isC, closes⟩ :=
    exists_ceil_dawn weekStart byDate lasting narrow (insideStop.mono 120 (by decide)) wholeStop ends
  obtain ⟨_, isCeil, _, nearC⟩ := exists_ceil_near (r := r) weekStart (fun _ => lasting) (insideStop.mono 80 (by decide))
  rw [ceil] at isCeil
  cases isCeil
  have close := Calendar.lt_of_ceil ceil
  have insideC : c.InsideBy 80 := by rw [Moment.insideBy_def] at *; omega
  have upward : g.leadIndex weekStart first.day ≤ g.leadIndex weekStart last.day :=
    Granularity.leadDay_le_iff.1 (Int.le_trans (Granularity.leadDay_leadIndex g weekStart first.day).1 order)
  have before : start ≤ stop := by
    rw [Moment.le_iff_place, dawns, ends]
    exact Int.le_of_lt ((dawn_lt_iff lasting narrow).2 (by omega))
  have le : f ≤ c := by
    rw [Moment.le_iff_place, opens, closes]
    exact Int.le_of_lt ((opening_lt_iff lasting narrow weekStart).2 (by omega))
  obtain ⟨starts, n, listed, numbers, places⟩ := exists_bucketStarts_openings lasting narrow weekStart byDate
    (p := ⟨f, c, r.id⟩) isF isC le (Calendar.floor_inside floor insideStart 80 (by decide)) insideC
  rw [opens, closes, bucketAt_opening lasting narrow, bucketAt_opening lasting narrow] at numbers
  have length : starts.length = n := by simpa using congrArg List.length places
  rw [normalize_iff_of_count (fun _ => lasting) weekStart before (insideStart.mono 80 (by decide))
    (insideStop.mono 80 (by decide)) floor ceil le (Calendar.bucketCount_eq_ok_iff.2 ⟨starts, listed, length⟩)]
  have least : g.bounds.minBuckets = 1 := by cases g <;> rfl
  unfold SpanBounds.Contains
  omega

end ByDate

/-! ## Hours of dates -/

theorem not_passesOver_dawn {h : Granularity} (regular : r.Regular h) {unit : Nat} (isUnit : ClockUnit unit) {d n : Int}
    (dawns : r.dawn d = 2000000000 * n) : ¬ ∃ s ∈ r.switches, s.PassesOver unit n := by
  -- The clock reaches the midnight at `n` and not a second before.
  have reached : 172800000000000 * d ≤ r.shown (2000000000 * n) := by
    rw [← resolved_midnight_le_iff regular, ← dawn, dawns]
  have early : r.shown (2000000000 * (n - 1)) < 172800000000000 * d := by
    rw [← Int.not_le, ← resolved_midnight_le_iff regular, ← dawn, dawns]
    omega
  unfold shown at reached early
  cases window : r.daylight with
  | none => simp [switches, window]
  | some w =>
    rw [exists_switch_window window]
    have long := Daylight.place_of_lasting (regular.lasting w window)
    have members : r.switches = [⟨w.start, r.standard, w.offset⟩, ⟨w.stop, w.offset, r.standard⟩] := by
      simp only [switches, window]
    have whole := regular.wholeSeconds
    have spares := regular.sparesMidnights
    rw [members] at whole spares
    simp only [List.forall_mem_cons, List.not_mem_nil, false_implies, implies_true, and_true] at whole spares
    have startPlace := Moment.place_of_whole whole.1
    have stopPlace := Moment.place_of_whole whole.2
    have sparesStart := spares.1 d
    have sparesStop := spares.2 d
    have here := aheadAt_window window (2000000000 * n)
    have before := aheadAt_window window (2000000000 * (n - 1))
    simp only [Switch.PassesOver, Switch.lastUnit] at *
    rcases isUnit with rfl | rfl <;> omega

theorem exists_normalize_hours {h : Granularity} (regular : r.Regular h) {first last : Date} {start stop : Instant}
    (spans : (r.calendar weekStart).SpansDates first last start stop) (low : firstDay + 200 ≤ first.day)
    (high : last.day + 200 ≤ lastDay) (short : last.day - first.day + 1 ≤ 2) :
    ∃ p, (r.calendar weekStart).normalize .hour start stop = .ok p := by
  have order := spans.order
  obtain ⟨⟨dawns, wholeStart⟩, ends, wholeStop⟩ := places_of_spansDates weekStart spans (by omega) (by omega)
  obtain ⟨insideStart, insideStop⟩ := inside_of_spansDates weekStart spans 160 (by decide) (by omega) (by omega)
  have before : start < stop := by
    rw [Moment.lt_iff_place, dawns, ends, dawn_lt_iff regular.lasting regular.narrow]
    omega
  obtain ⟨f, floor, secondsF, wholeF⟩ :=
    floor_clock (r := r) weekStart (g := .hour) rfl (insideStart.mono 1 (by decide))
  have onF := onUnit_unitFloor (r := r) (.inr rfl) start.seconds
  have boundsF := unitFloor_bounds (r := r) (.inr rfl) start.seconds
  rw [← secondsF] at onF boundsF
  obtain ⟨c, ceil, covers⟩ := le_ceil_iff_byClock regular.lasting weekStart (g := .hour) rfl
    (insideStop.mono 80 (by decide))
  have kept : ¬ r.LosesStop .hour weekStart stop := by
    rw [Moment.place_of_whole wholeStop] at ends
    exact not_passesOver_dawn regular (.inr rfl) (by rw [← ends, Int.mul_comm])
  obtain ⟨_, isCeil, wholeC, nearC⟩ := exists_ceil_near (r := r) (g := .hour) weekStart (fun _ => regular.lasting)
    (insideStop.mono 80 (by decide))
  rw [ceil] at isCeil
  cases isCeil
  have later : f < c := by
    rw [Moment.lt_iff_seconds wholeC]
    have reached := (Moment.le_iff_seconds wholeStop).1 (covers.2 kept)
    have further := (Moment.lt_iff_seconds wholeStop).1 before
    omega
  have apart : stop.seconds - start.seconds < 86400 * 4 := by
    have lowDawn := (r.dawn_bounds first.day).1
    have highDawn := (r.dawn_bounds (last.day + 1)).2
    rw [← dawns, Moment.place_of_whole wholeStart] at lowDawn
    rw [← ends, Moment.place_of_whole wholeStop] at highDawn
    omega
  have insideF : f.InsideBy 2 := by rw [Moment.insideBy_def] at *; omega
  have insideC : c.InsideBy 2 := by rw [Moment.insideBy_def] at *; rw [Moment.lt_iff_seconds wholeC] at later; omega
  obtain ⟨starts, listed, few⟩ := exists_bucketStarts_spread weekStart (g := .hour) rfl (p := ⟨f, c, r.id⟩) wholeF onF
    insideF insideC (le_of_lt later)
  simp only at few
  have count := Calendar.bucketCount_eq_ok_iff.2 ⟨starts, listed, rfl⟩
  have some_hour := (Calendar.pos_bucketCount_iff count).2 later
  rw [normalize_iff_of_count (fun _ => regular.lasting) weekStart (le_of_lt before) (insideStart.mono 80 (by decide))
    (insideStop.mono 80 (by decide)) floor ceil (le_of_lt later) count]
  exact ⟨some_hour, by simp only [Granularity.bounds]; omega⟩

/-! ## The granularity that suits the dates -/

section Regular
variable {h : Granularity} (regular : r.Regular h)
include regular

/-- A span of up to sixty dates is normalized at the granularity that suits it, a longer one
    when it touches no more than 120 months. -/
theorem normalize_forDates {first last : Date} {start stop : Instant}
    (spans : (r.calendar weekStart).SpansDates first last start stop) (low : firstDay + 200 ≤ first.day)
    (high : last.day + 200 ≤ lastDay) :
    (last.day - first.day + 1 ≤ 60 →
      ∃ p, (r.calendar weekStart).normalize (.forDates first last) start stop = .ok p) ∧
    (60 < last.day - first.day + 1 →
      ((∃ p, (r.calendar weekStart).normalize (.forDates first last) start stop = .ok p) ↔
        last.civil.monthIndex - first.civil.monthIndex + 1 ≤ 120)) := by
  unfold Granularity.forDates
  simp only
  constructor
  · intro short
    by_cases few : last.day - first.day + 1 ≤ 2
    · rw [if_pos few]
      exact exists_normalize_hours weekStart regular spans low high few
    · rw [if_neg few, if_pos short,
        normalize_span_iff weekStart (g := .day) rfl regular.lasting regular.narrow spans low high]
      simp only [Granularity.leadIndex, Granularity.bounds]
      omega
  · intro long
    rw [if_neg (by omega), if_neg (by omega)]
    exact normalize_span_iff weekStart (g := .month) rfl regular.lasting regular.narrow spans low high

theorem granularityOf_span {first last : Date} {start stop : Instant}
    (spans : (r.calendar weekStart).SpansDates first last start stop) (low : firstDay + 200 ≤ first.day)
    (high : last.day + 200 ≤ lastDay) :
    App.granularityOf (r.calendar weekStart) none start stop = .ok (.forDates first last) := by
  have span := dateSpan_of_spansDates weekStart spans regular (by omega) (by omega)
  exact bind_eq_ok_iff.2 ⟨(first, last), Overflow.monadLift_eq_ok_iff.2 span, rfl⟩

/-- A selection of dates whose granularity is left to the service is accepted when it has up
    to sixty dates, and else just when it touches no more than 120 months; so the selection
    that is made where none is asked for is always accepted. -/
theorem normalize_dates :
    (∀ a b : Date, a.day ≤ b.day → firstDay + Moment.quarterCentury ≤ a.day →
      b.day + Moment.quarterCentury ≤ lastDay → ∃ start stop,
        (r.calendar weekStart).dayStart a = .ok start ∧ (r.calendar weekStart).dayEnd b = .ok stop ∧
        (r.calendar weekStart).dateSpan start stop = .ok (a, b) ∧
        App.granularityOf (r.calendar weekStart) none start stop = .ok (.forDates a b) ∧
        (b.day - a.day + 1 ≤ 60 → ∃ p, (r.calendar weekStart).normalize (.forDates a b) start stop = .ok p) ∧
        (60 < b.day - a.day + 1 →
          ((∃ p, (r.calendar weekStart).normalize (.forDates a b) start stop = .ok p) ↔
            b.civil.monthIndex - a.civil.monthIndex + 1 ≤ 120))) ∧
    ∀ (now : Instant) (lookback : Nat), now.InsideBy Moment.quarterCentury → lookback ≤ 365 → ∃ start stop g p,
      (r.calendar weekStart).readSelection now lookback none none = .ok (start, stop) ∧
      App.granularityOf (r.calendar weekStart) none start stop = .ok g ∧
      (r.calendar weekStart).normalize g start stop = .ok p := by
  constructor
  · intro a b order low high
    have low : firstDay + 9131 ≤ a.day := low
    have high : b.day + 9131 ≤ lastDay := high
    obtain ⟨start, stop, spans, _⟩ := exists_span (r := r) weekStart order (by omega) (by omega)
    exact ⟨start, stop, spans.opens, spans.closes,
      dateSpan_of_spansDates weekStart spans regular (by omega) (by omega),
      granularityOf_span weekStart regular spans (by omega) (by omega),
      normalize_forDates weekStart regular spans (by omega) (by omega)⟩
  · intro now lookback inside recent
    obtain ⟨today, date, _⟩ := dateOf_spec r weekStart (inside.mono 1 (by decide))
    have near := Calendar.dateOf_near date
    have firstDay_eq : firstDay = -96465292 := rfl
    have lastDay_eq : lastDay = 95026236 := rfl
    have far : now.InsideBy 9131 := inside
    rw [Moment.insideBy_def] at far
    obtain ⟨since, found, day⟩ := Date.ofDay?_inside (n := today.day + -(lookback : Int)) (by omega) (by omega)
    have order : since.day ≤ today.day := by omega
    obtain ⟨start, stop, spans, _⟩ := exists_span (r := r) weekStart order (by omega) (by omega)
    obtain ⟨short, long⟩ := normalize_forDates weekStart regular spans (by omega) (by omega)
    have accepted : ∃ p, (r.calendar weekStart).normalize (.forDates since today) start stop = .ok p := by
      rcases Int.lt_or_le 60 (today.day - since.day + 1) with many | few
      · have apart := Civil.monthIndex_apart (m := since.day) (n := today.day) (by omega)
        rw [long many]
        unfold Date.civil
        omega
      · exact short few
    obtain ⟨p, normalized⟩ := accepted
    refine ⟨start, stop, _, p, ?_, granularityOf_span weekStart regular spans (by omega) (by omega), normalized⟩
    exact Calendar.readSelection_of_none date found spans

end Regular

/-- In New York the short day and the one after it are selected by their hours, the eleven
    years from 2024 on are too many months, and the last month is selected by its days. -/
theorem newYork2024_dates :
    (∃ start stop p, (newYork2024.calendar .monday).dayStart ⟨19792, by decide, by decide⟩ = .ok start ∧
      (newYork2024.calendar .monday).dayEnd ⟨19793, by decide, by decide⟩ = .ok stop ∧
      (newYork2024.calendar .monday).dateSpan start stop =
        .ok (⟨19792, by decide, by decide⟩, ⟨19793, by decide, by decide⟩) ∧
      (newYork2024.calendar .monday).normalize .hour start stop = .ok p) ∧
    (∃ start stop, (newYork2024.calendar .monday).dayStart ⟨19723, by decide, by decide⟩ = .ok start ∧
      (newYork2024.calendar .monday).dayEnd ⟨23740, by decide, by decide⟩ = .ok stop ∧
      ¬ ∃ p, (newYork2024.calendar .monday).normalize .month start stop = .ok p) ∧
    ∃ start stop g p, (newYork2024.calendar .monday).readSelection (.midnight ⟨19793, by decide, by decide⟩) 30 none none =
        .ok (start, stop) ∧
      App.granularityOf (newYork2024.calendar .monday) none start stop = .ok g ∧
      (newYork2024.calendar .monday).normalize g start stop = .ok p := by
  obtain ⟨dates, defaults⟩ := normalize_dates .monday (regular_newYork2024 .day)
  refine ⟨?_, ?_, defaults _ 30 (by decide) (by decide)⟩
  · obtain ⟨start, stop, opens, closes, span, _, short, _⟩ :=
      dates ⟨19792, by decide, by decide⟩ ⟨19793, by decide, by decide⟩ (by decide) (by decide) (by decide)
    obtain ⟨p, normalized⟩ := short (by decide)
    exact ⟨start, stop, p, opens, closes, span, normalized⟩
  · obtain ⟨start, stop, opens, closes, _, _, _, long⟩ :=
      dates ⟨19723, by decide, by decide⟩ ⟨23740, by decide, by decide⟩ (by decide) (by decide) (by decide)
    exact ⟨start, stop, opens, closes, mt (long (by decide)).1 (by decide)⟩

end FixedRule

end BucketPlan
