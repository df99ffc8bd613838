import BucketPlan.Proofs.Calendar.RegularOrder
import BucketPlan.Service.Bounds

namespace BucketPlan

/-- The instants from `start` up to `stop` are those of the local dates from `first` to
    `last`. -/
structure Calendar.SpansDates (cal : Calendar) (first last : Date) (start stop : Instant) : Prop where
  opens : cal.dayStart first = .ok start
  closes : cal.dayEnd last = .ok stop
  order : first.day ≤ last.day

namespace FixedRule

variable {r : FixedRule}

/-! ## Dawns in order -/

section Narrow
variable (lasting : r.Lasting) (narrow : r.Narrow)
include lasting narrow

theorem offsetOn_apart (m n : Int) : r.offsetOn m - r.offsetOn n < 86400 := by
  cases window : r.daylight with
  | none =>
    simp only [offsetOn, window]
    omega
  | some w =>
    obtain ⟨low, high⟩ := abs_lt.1 (narrow w window)
    rcases offsetOn_window lasting window m with ⟨_, _, atM⟩ | ⟨_, _, _, atM⟩ | ⟨_, _, atM⟩ | ⟨_, _, atM⟩ <;>
      rcases offsetOn_window lasting window n with ⟨_, _, atN⟩ | ⟨_, _, _, atN⟩ | ⟨_, _, atN⟩ | ⟨_, _, atN⟩ <;>
      omega

theorem dawn_lt_iff {d e : Int} : r.dawn d < r.dawn e ↔ d < e := by
  have later : ∀ {a b : Int}, a < b → r.dawn a < r.dawn b := by
    intro a b less
    have apart := offsetOn_apart lasting narrow (172800000000000 * b) (172800000000000 * a)
    unfold dawn resolved
    omega
  constructor
  · intro dawns
    by_contra back
    rcases Int.lt_or_eq_of_le (Int.not_lt.1 back) with less | rfl
    · have other := later less
      omega
    · exact absurd dawns (Int.lt_irrefl _)
  · exact later

theorem dawn_inj {d e : Int} : r.dawn d = r.dawn e ↔ d = e := by
  constructor
  · intro same
    have upward := (dawn_lt_iff lasting narrow (d := d) (e := e)).not
    have downward := (dawn_lt_iff lasting narrow (d := e) (e := d)).not
    omega
  · rintro rfl
    rfl

end Narrow

section Regular
variable {g : Granularity} (regular : r.Regular g)
include regular

theorem dawn_le_iff {d n : Int} : r.dawn d ≤ n ↔ d ≤ r.dayAt n := by
  rw [dawn, resolved_midnight_le_iff regular, le_dayAt_iff]

/-- The second before a day dawns lies in the day before. -/
theorem dayAt_before_dawn (d : Int) : r.dayAt (r.dawn d - 2000000000) = d - 1 := by
  have order : r.dawn (d - 1) < r.dawn d := (dawn_lt_iff regular.lasting regular.narrow).2 (by omega)
  -- Dawns are whole seconds apart.
  have early : r.dawn (d - 1) ≤ r.dawn d - 2000000000 := by
    unfold dawn resolved at *
    omega
  have late : ¬ r.dawn d ≤ r.dawn d - 2000000000 := by omega
  rw [dawn_le_iff regular] at early late
  omega

end Regular

/-! ## The ends of a span -/

variable (weekStart : Weekday)

theorem dayEnd_spec {d : Date} (low : firstDay + 3 ≤ d.day) (high : d.day + 4 ≤ lastDay) :
    ∃ t, (r.calendar weekStart).dayEnd d = .ok t ∧ t.place = r.dawn (d.day + 1) ∧ t.nanos = 0 := by
  obtain ⟨next, found, day⟩ := Date.ofDay?_inside (n := d.day + 1) (by omega) (by omega)
  obtain ⟨t, run, place, nanos⟩ := dayStart_spec r weekStart (d := next) (by omega) (by omega)
  refine ⟨t, ?_, by rw [place, day], nanos⟩
  rw [Calendar.dayEnd, Date.addDays?, found, Option.getD_some, run]

theorem exists_span {first last : Date} (order : first.day ≤ last.day) (low : firstDay + 3 ≤ first.day)
    (high : last.day + 4 ≤ lastDay) :
    ∃ start stop, (r.calendar weekStart).SpansDates first last start stop ∧ start.place = r.dawn first.day ∧
      start.nanos = 0 ∧ stop.place = r.dawn (last.day + 1) ∧ stop.nanos = 0 := by
  obtain ⟨start, opens, placeStart, wholeStart⟩ := dayStart_spec r weekStart (d := first) low (by omega)
  obtain ⟨stop, closes, placeStop, wholeStop⟩ := dayEnd_spec (r := r) weekStart (d := last) (by omega) high
  exact ⟨start, stop, ⟨opens, closes, order⟩, placeStart, wholeStart, placeStop, wholeStop⟩

theorem spansDates_of_dawns {start stop : Instant} {first last : Date} (order : first.day ≤ last.day)
    (low : firstDay + 3 ≤ first.day) (high : last.day + 4 ≤ lastDay) (opens : start.place = r.dawn first.day)
    (closes : stop.place = r.dawn (last.day + 1)) : (r.calendar weekStart).SpansDates first last start stop := by
  obtain ⟨a, b, spans, placeA, _, placeB, _⟩ := exists_span (r := r) weekStart order low high
  rwa [Moment.place_injective (placeA.trans opens.symm), Moment.place_injective (placeB.trans closes.symm)] at spans

section Span
variable {first last : Date} {start stop : Instant} (spans : (r.calendar weekStart).SpansDates first last start stop)
include spans

/-- A span lasts from one dawn to another. -/
theorem places_of_spansDates (low : firstDay + 3 ≤ first.day) (high : last.day + 4 ≤ lastDay) :
    (start.place = r.dawn first.day ∧ start.nanos = 0) ∧ stop.place = r.dawn (last.day + 1) ∧ stop.nanos = 0 := by
  obtain ⟨opens, closes, order⟩ := spans
  obtain ⟨_, isStart, placeStart⟩ := dayStart_spec r weekStart low (by omega)
  obtain ⟨_, isStop, placeStop⟩ := dayEnd_spec (r := r) weekStart (d := last) (by omega) high
  rw [opens] at isStart
  rw [closes] at isStop
  cases isStart
  cases isStop
  exact ⟨placeStart, placeStop⟩

theorem inside_of_spansDates (days : Int) (positive : 0 < days) (low : firstDay + days + 2 ≤ first.day)
    (high : last.day + days + 3 ≤ lastDay) : start.InsideBy days ∧ stop.InsideBy days := by
  have order := spans.order
  obtain ⟨⟨placeStart, wholeStart⟩, placeStop, wholeStop⟩ :=
    places_of_spansDates weekStart spans (by omega) (by omega)
  have boundsStart := r.dawn_bounds first.day
  have boundsStop := r.dawn_bounds (last.day + 1)
  rw [← placeStart, Moment.place_of_whole wholeStart] at boundsStart
  rw [← placeStop, Moment.place_of_whole wholeStop] at boundsStop
  have firstDay_eq : firstDay = -96465292 := rfl
  have lastDay_eq : lastDay = 95026236 := rfl
  rw [Moment.insideBy_def, Moment.insideBy_def]
  omega

/-- A span has the dates that it is made from. -/
theorem dateSpan_of_spansDates {g : Granularity} (regular : r.Regular g) (low : firstDay + 4 ≤ first.day)
    (high : last.day + 5 ≤ lastDay) : (r.calendar weekStart).dateSpan start stop = .ok (first, last) := by
  have order := spans.order
  obtain ⟨⟨placeStart, wholeStart⟩, placeStop, wholeStop⟩ :=
    places_of_spansDates weekStart spans (by omega) (by omega)
  obtain ⟨insideStart, insideStop⟩ := inside_of_spansDates weekStart spans 2 (by decide) (by omega) (by omega)
  obtain ⟨before, run, place, seconds, nanos⟩ :=
    Moment.plus_inside (d := -1) insideStop (Moment.plain_of_whole wholeStop) (by decide) (by decide)
  have wholeBefore : before.nanos = 0 := nanos.trans wholeStop
  have isBefore : before.place = r.dawn (last.day + 1) - 2000000000 := by omega
  -- The first day has dawned when the last one is over.
  have reached : start ≤ before := by
    rw [Moment.le_iff_place, placeStart, isBefore, dawn_le_iff regular, dayAt_before_dawn regular]
    omega
  obtain ⟨a, dateStart, dayStart⟩ := dateOf_spec r weekStart (insideStart.mono 1 (by decide))
  obtain ⟨b, dateBefore, dayBefore⟩ :=
    dateOf_spec r weekStart (t := before) (by rw [Moment.insideBy_def] at *; omega)
  have sameFirst : a = first := Date.day_injective (by
    rw [dayStart (Moment.plain_of_whole wholeStart), placeStart, dayAt_dawn regular.lasting regular.narrow])
  have sameLast : b = last := Date.day_injective (by
    rw [dayBefore (Moment.plain_of_whole wholeBefore), isBefore, dayAt_before_dawn regular]
    omega)
  subst sameFirst
  subst sameLast
  have latest : Moment.latest before start = before := by rw [Moment.latest, if_neg (not_lt.2 reached)]
  simp only [Calendar.dateSpan, run, latest, dateStart, dateBefore, bind, Except.bind, pure, Except.pure]

end Span

/-- What lies between two boundaries of a calendar granularity is a span of dates. -/
theorem exists_spansDates {g : Granularity} (regular : r.Regular g) (byDate : g.unitSeconds? = none)
    {start stop : Instant} (first : (r.calendar weekStart).Boundary g start)
    (last : (r.calendar weekStart).Boundary g stop) (order : start < stop) (insideStart : start.InsideBy 80)
    (insideStop : stop.InsideBy 80) :
    ∃ a b, (r.calendar weekStart).SpansDates a b start stop ∧ firstDay + 4 ≤ a.day ∧ b.day + 5 ≤ lastDay := by
  have placeStart := boundary_place weekStart byDate (insideStart.mono 40 (by decide)) first
  have placeStop := boundary_place weekStart byDate (insideStop.mono 40 (by decide)) last
  rw [Moment.lt_iff_place] at order
  rw [opening] at placeStart placeStop
  generalize g.leadDay weekStart (r.bucketAt g weekStart start.place) = d at placeStart
  generalize g.leadDay weekStart (r.bucketAt g weekStart stop.place) = e at placeStop
  have less : d < e := by rwa [placeStart, placeStop, dawn_lt_iff regular.lasting regular.narrow] at order
  have boundsStart := r.dawn_bounds d
  have boundsStop := r.dawn_bounds e
  rw [← placeStart, Moment.place_of_whole first.nanos] at boundsStart
  rw [← placeStop, Moment.place_of_whole last.nanos] at boundsStop
  have firstDay_eq : firstDay = -96465292 := rfl
  have lastDay_eq : lastDay = 95026236 := rfl
  rw [Moment.insideBy_def] at insideStart insideStop
  obtain ⟨a, _, dayA⟩ := Date.ofDay?_inside (n := d) (by omega) (by omega)
  obtain ⟨b, _, dayB⟩ := Date.ofDay?_inside (n := e - 1) (by omega) (by omega)
  refine ⟨a, b, ?_, by omega, by omega⟩
  refine spansDates_of_dawns weekStart (by omega) (by omega) (by omega) (by rw [dayA, placeStart]) ?_
  rw [dayB, placeStop]
  congr 1
  omega

end FixedRule

end BucketPlan
