import BucketPlan.Proofs.Bucket.Nesting
import BucketPlan.Proofs.Bucket.Steps
import BucketPlan.Proofs.Comparison.EchoedRange
import Mathlib.Data.List.Chain
import Mathlib.Data.List.Nodup
import Mathlib.Data.List.Range

namespace BucketPlan

/-! ## Dates in their labels -/

/-- Year and month. -/
def Date.monthText (d : Date) : String := String.ofList d.civil.monthChars

/-- The label of the bucket that leads with a date. -/
def Granularity.dateLabel (g : Granularity) (d : Date) : String :=
  match g with
  | .month => d.monthText
  | _ => d.text

theorem Calendar.label_eq_dateLabel {g : Granularity} (byDate : g.unitSeconds? = none) (cal : Calendar) (t : Instant) :
    cal.label g t = g.dateLabel <$> cal.dateOf t := by
  cases g with
  | minute | hour => cases byDate
  | day | week | month =>
    simp only [label, dateOf]
    cases cal.toLocal t <;> rfl

theorem Calendar.labels_of_dates {g : Granularity} (byDate : g.unitSeconds? = none) {cal : Calendar}
    {starts : List Instant} {dates : List Date} (dated : starts.mapM cal.dateOf = .ok dates) :
    starts.mapM (cal.label g) = .ok (dates.map g.dateLabel) := by
  rw [funext (cal.label_eq_dateLabel byDate)]
  exact mapM_map_eq_ok dated

theorem Date.weekday_of_leadDay {weekStart : Weekday} {d : Date} {i : Int}
    (leads : d.day = Granularity.week.leadDay weekStart i) : d.weekday = weekStart := by
  have index : ((d.day + 3) % 7).toNat = weekStart.index := by
    have few := weekStart.index_lt
    simp only [Granularity.leadDay] at leads
    omega
  rw [weekday, index, Weekday.ofIndex_index]

theorem Date.civil_of_leadDay {weekStart : Weekday} {d : Date} {i : Int}
    (leads : d.day = Granularity.month.leadDay weekStart i) : d.civil = ⟨i / 12, (i % 12).toNat + 1, 1⟩ := by
  have long := (monthLength_bounds i).1
  have first := Civil.ofDay_monthStart_add (i := i) (k := 0) (by omega)
  rw [Int.natCast_zero, Int.add_zero] at first
  rw [civil, leads]
  exact first

theorem Granularity.dateLabel_injOn {g : Granularity} {weekStart : Weekday} {d e : Date} {i j : Int}
    (leadsD : d.day = g.leadDay weekStart i) (leadsE : e.day = g.leadDay weekStart j)
    (same : g.dateLabel d = g.dateLabel e) : d = e := by
  cases g with
  | month =>
    have civilD := Date.civil_of_leadDay leadsD
    have civilE := Date.civil_of_leadDay leadsE
    obtain ⟨year, month⟩ := Civil.monthChars_injective (c := d.civil) (e := e.civil) (by rw [civilD]; simp only; omega)
      (by rw [civilE]; simp only; omega) (String.ofList_injective same)
    rw [civilD, civilE] at year month
    simp only at year month
    exact Date.day_injective (by rw [leadsD, leadsE, show i = j by omega])
  | minute | hour | day | week => exact Date.text_injective same

/-- The dates lead one bucket after the other. -/
def Granularity.LeadDates (g : Granularity) (weekStart : Weekday) (dates : List Date) : Prop :=
  ∃ i : Int, dates.map Date.day = (List.range dates.length).map fun k : Nat => g.leadDay weekStart (i + k)

namespace Granularity.LeadDates

variable {g : Granularity} {weekStart : Weekday} {dates : List Date}

theorem exists_leadDay (leads : g.LeadDates weekStart dates) {d : Date} (member : d ∈ dates) :
    ∃ i, d.day = g.leadDay weekStart i := by
  obtain ⟨i, days⟩ := leads
  obtain ⟨k, _, same⟩ := List.mem_map.1 (days ▸ List.mem_map_of_mem member)
  exact ⟨i + k, same.symm⟩

theorem chain (leads : g.LeadDates weekStart dates) {R : Int → Int → Prop}
    (follows : ∀ i, R (g.leadDay weekStart i) (g.leadDay weekStart (i + 1))) :
    dates.IsChain fun d e => R d.day e.day := by
  obtain ⟨i, days⟩ := leads
  rw [← List.isChain_map (R := R) Date.day, days, List.isChain_map, List.isChain_range]
  intro k _
  have next := follows (i + k)
  rwa [Int.add_assoc] at next

theorem nodup_dateLabel (leads : g.LeadDates weekStart dates) : (dates.map g.dateLabel).Nodup := by
  have distinct : dates.Nodup := by
    obtain ⟨i, days⟩ := leads
    refine List.Nodup.of_map Date.day ?_
    rw [days]
    refine List.Nodup.map ?_ List.nodup_range
    intro k l same
    have low := Granularity.leadDay_le_leadDay_iff.1 (Int.le_of_eq same)
    have high := Granularity.leadDay_le_leadDay_iff.1 (Int.le_of_eq same.symm)
    omega
  refine distinct.map_on ?_
  intro d memberD e memberE same
  obtain ⟨i, leadsD⟩ := leads.exists_leadDay memberD
  obtain ⟨j, leadsE⟩ := leads.exists_leadDay memberE
  exact Granularity.dateLabel_injOn leadsD leadsE same

/-- The first and the last of some dates lead the first and the last bucket. -/
theorem ends {i : Int} {n : Nat}
    (days : dates.map Date.day = (List.range (n + 1)).map fun k : Nat => g.leadDay weekStart (i + k)) :
    ∃ d e, dates.head? = some d ∧ d.day = g.leadDay weekStart i ∧ dates.getLast? = some e ∧
      e.day = g.leadDay weekStart (i + n) := by
  have first := congrArg List.head? days
  have last := congrArg List.getLast? days
  rw [List.head?_map, List.head?_map, List.head?_range] at first
  rw [List.getLast?_map, List.getLast?_map, List.getLast?_range] at last
  obtain ⟨d, head, dayD⟩ := Option.map_eq_some_iff.1 first
  obtain ⟨e, tail, dayE⟩ := Option.map_eq_some_iff.1 last
  exact ⟨d, e, head, by simpa using dayD, tail, by simpa using dayE⟩

end Granularity.LeadDates

/-! ## Labels of a period -/

/-- The labels are dates in turn, each one's successor after it, as they are written, and no
    two of them are the same. -/
structure WritesDates (write : Date → String) (Follows : Date → Date → Prop) (dates : List Date)
    (labels : List String) : Prop where
  written : labels = dates.map write
  chain : dates.IsChain Follows
  distinct : labels.Nodup

/-- Labels and range of a period agree with the calendar: days are in turn, weeks are seven
    days apart and begin on their first weekday, months are in turn. The range is from the
    first label to the last one, for weeks to the sixth day after it, and for months from the
    first day of the first month to the last day of the last one. -/
def Granularity.LabelsAgree (g : Granularity) (weekStart : Weekday) (labels : List String)
    (range : String × String) : Prop :=
  match g with
  | .minute | .hour => labels.head? = some range.1 ∧ labels.getLast? = some range.2
  | .day =>
    (∃ dates, WritesDates Date.text (fun d e => e.day = d.day + 1) dates labels) ∧
      labels.head? = some range.1 ∧ labels.getLast? = some range.2
  | .week =>
    (∃ dates, WritesDates Date.text (fun d e => e.day = d.day + 7) dates labels ∧ ∀ d ∈ dates, d.weekday = weekStart) ∧
      labels.head? = some range.1 ∧
      ∃ d sixth : Date, labels.getLast? = some d.text ∧ sixth.day = d.day + 6 ∧ range.2 = sixth.text
  | .month =>
    (∃ dates, WritesDates Date.monthText (fun d e => e.civil.monthIndex = d.civil.monthIndex + 1) dates labels) ∧
      (∃ d first : Date, labels.head? = some d.monthText ∧ first.civil = { d.civil with day := 1 } ∧ range.1 = first.text) ∧
      ∃ d last : Date, labels.getLast? = some d.monthText ∧
        last.civil = { d.civil with day := daysInMonth d.civil.year d.civil.month } ∧ range.2 = last.text

/-- Dates that lead the buckets from one to another agree with the range from the first of
    them to the last day of the last bucket. -/
theorem Granularity.LeadDates.labelsAgree {g : Granularity} {weekStart : Weekday} {dates : List Date}
    {first last final : Date} (leads : g.LeadDates weekStart dates) (byDate : g.unitSeconds? = none)
    (head : dates.head? = some first) (tail : dates.getLast? = some last)
    (length : final.day = last.day + g.lengthInDays last - 1) :
    g.LabelsAgree weekStart (dates.map g.dateLabel) (first.text, final.text) := by
  have isFirst : (dates.map g.dateLabel).head? = some (g.dateLabel first) := by rw [List.head?_map, head, Option.map_some]
  have isLast : (dates.map g.dateLabel).getLast? = some (g.dateLabel last) := by
    rw [List.getLast?_map, tail, Option.map_some]
  have distinct := leads.nodup_dateLabel
  cases g with
  | minute | hour => cases byDate
  | day =>
    obtain rfl : final = last := Date.day_injective (by simp only [lengthInDays] at length; omega)
    exact ⟨⟨dates, rfl, leads.chain (R := fun d e => e = d + 1) fun i => rfl, distinct⟩, isFirst, isLast⟩
  | week =>
    refine ⟨⟨dates, ⟨rfl, ?_, distinct⟩, ?_⟩, isFirst, last, final, isLast, ?_, rfl⟩
    · refine leads.chain (R := fun d e => e = d + 7) fun i => ?_
      simp only [leadDay]
      omega
    · intro d member
      obtain ⟨i, day⟩ := leads.exists_leadDay member
      exact Date.weekday_of_leadDay day
    · simp only [lengthInDays] at length
      omega
  | month =>
    refine ⟨⟨dates, rfl, ?_, distinct⟩, ⟨first, first, isFirst, ?_, rfl⟩, last, final, isLast, ?_, rfl⟩
    · refine leads.chain (R := fun d e => (Civil.ofDay e).monthIndex = (Civil.ofDay d).monthIndex + 1) fun i => ?_
      simp only [leadDay, Civil.monthIndex_monthStart]
    · obtain ⟨i, day⟩ := leads.exists_leadDay (List.mem_of_head? head)
      rw [Date.civil_of_leadDay day]
    · obtain ⟨i, day⟩ := leads.exists_leadDay (List.mem_of_getLast? tail)
      have civil := Date.civil_of_leadDay day
      have long := (monthLength_bounds i).1
      rw [lengthInDays, civil, day, leadDay, ← monthLength] at length
      rw [civil, Date.civil, show final.day = monthStart i + (monthLength i - 1 : Nat) by omega,
        Civil.ofDay_monthStart_add (by omega), Nat.sub_add_cancel (by omega), monthLength]

namespace FixedRule

variable {r : FixedRule} {g : Granularity} (regular : r.Regular g) (weekStart : Weekday) {p : Period}
  (aligned : (r.calendar weekStart).AlignedPeriod g p) (inside : p.InsideBy 120)
include regular aligned inside

/-- Each bucket of an aligned period starts on the day that leads it, from the bucket that
    opens the period to the one before the bucket that ends it. -/
theorem exists_leadDates (byDate : g.unitSeconds? = none) :
    ∃ (starts : List Instant) (dates : List Date) (i : Int) (n : Nat),
      (r.calendar weekStart).bucketStarts g p = .ok starts ∧
      starts.mapM (r.calendar weekStart).dateOf = .ok dates ∧
      dates.map Date.day = ((List.range n).map fun k : Nat => g.leadDay weekStart (i + k)) ∧
      p.start.place = r.dawn (g.leadDay weekStart i) ∧ p.stop.place = r.dawn (g.leadDay weekStart (i + n)) := by
  have near : p.InsideBy 80 := inside.mono 80 (by decide)
  obtain ⟨starts, n, listed, number, places⟩ := exists_bucketStarts_openings regular.lasting regular.narrow weekStart
    byDate aligned.first aligned.last (le_of_lt aligned.start_lt_stop) near.start near.stop
  have opens := boundary_place weekStart byDate (inside.start.mono 40 (by decide)) aligned.first
  have closes := boundary_place weekStart byDate (inside.stop.mono 40 (by decide)) aligned.last
  rw [number] at closes
  generalize r.bucketAt g weekStart p.start.place = i at places opens closes
  have each : ∀ b ∈ starts, ∃ d, (r.calendar weekStart).dateOf b = .ok d ∧ d.day = (r.dayAt ∘ Moment.place) b := by
    intro b member
    obtain ⟨since, before⟩ : p.start ≤ b ∧ b < p.stop :=
      (Calendar.bucketStarts_eq_ok_iff.1 listed).within rfl b member
    obtain ⟨k, _, opensB⟩ := List.mem_map.1 (places ▸ List.mem_map_of_mem member)
    obtain ⟨d, date, day⟩ := dateOf_spec r weekStart
      ((near.start.between near.stop since (le_of_lt before)).mono 1 (by decide))
    exact ⟨d, date, day (Moment.plain_of_whole (nanos_of_opening weekStart opensB.symm))⟩
  obtain ⟨dates, dated, days⟩ := exists_mapM_map each
  refine ⟨starts, dates, i, n, listed, dated, ?_, opens, closes⟩
  rw [days, ← List.map_map, places, List.map_map]
  refine List.map_congr_left fun k _ => ?_
  rw [Function.comp_apply, opening, dayAt_dawn regular.lasting regular.narrow]

/-- The labels of an aligned period are those of dates that lead one bucket after the other,
    and its range is from the first of these dates to the last day of the last bucket. -/
theorem exists_dateLabels (byDate : g.unitSeconds? = none) :
    ∃ (starts : List Instant) (dates : List Date) (first last final : Date),
      (r.calendar weekStart).bucketStarts g p = .ok starts ∧
      starts.mapM ((r.calendar weekStart).label g) = .ok (dates.map g.dateLabel) ∧
      (r.calendar weekStart).inclusiveRange g p = .ok (first.text, final.text) ∧ g.LeadDates weekStart dates ∧
      dates.head? = some first ∧ dates.getLast? = some last ∧ final.day = last.day + g.lengthInDays last - 1 := by
  obtain ⟨starts, dates, i, n, listed, dated, leads, opens, closes⟩ :=
    exists_leadDates regular weekStart aligned inside byDate
  obtain ⟨first, final, spans, low, high⟩ := exists_spansDates weekStart regular byDate aligned.first aligned.last
    aligned.start_lt_stop (inside.start.mono 80 (by decide)) (inside.stop.mono 80 (by decide))
  obtain ⟨⟨dawnFirst, _⟩, dawnFinal, _⟩ := places_of_spansDates weekStart spans (by omega) (by omega)
  have dayFirst : first.day = g.leadDay weekStart i := by
    rwa [opens, dawn_inj regular.lasting regular.narrow, eq_comm] at dawnFirst
  have dayFinal : final.day + 1 = g.leadDay weekStart (i + n) := by
    rwa [closes, dawn_inj regular.lasting regular.narrow, eq_comm] at dawnFinal
  have some_day := spans.order
  cases n with
  | zero =>
    rw [Int.natCast_zero, Int.add_zero] at dayFinal
    omega
  | succ n =>
    obtain ⟨d, last, head, dayD, tail, dayLast⟩ := Granularity.LeadDates.ends leads
    obtain rfl : d = first := Date.day_injective (dayD.trans dayFirst.symm)
    refine ⟨starts, dates, d, last, final, listed, ?_, ?_, ⟨i, ?_⟩, head, tail, ?_⟩
    · exact Calendar.labels_of_dates byDate dated
    · exact Calendar.inclusiveRange_of_dateSpan (Option.isNone_iff_eq_none.2 byDate)
        (dateSpan_of_spansDates weekStart spans regular low high)
    · have count := congrArg List.length leads
      rw [List.length_map, List.length_map, List.length_range] at count
      rw [count, leads]
    · have length := Granularity.leadDay_succ dayLast
      rw [Int.add_assoc] at length
      rw [Int.natCast_succ] at dayFinal
      omega

/-- The buckets of an aligned period that are cut by the clock have labels, and its range is
    from the first to the last of them. -/
theorem exists_clockLabels (byClock : g.isCalendar = false) :
    ∃ starts labels range, (r.calendar weekStart).bucketStarts g p = .ok starts ∧
      starts.mapM ((r.calendar weekStart).label g) = .ok labels ∧
      (r.calendar weekStart).inclusiveRange g p = .ok range ∧ labels.head? = some range.1 ∧
      labels.getLast? = some range.2 := by
  have order := aligned.start_lt_stop
  have near : p.InsideBy 80 := inside.mono 80 (by decide)
  have ordered := regular.ordered weekStart
  obtain ⟨starts, tiles⟩ := ordered.tiles aligned.first aligned.last (le_of_lt order) near.start near.stop
  obtain ⟨last, previous, adjacent, _⟩ := ordered.previous_adjacent inside.stop aligned.last
  have since : p.start ≤ last := adjacent.clear aligned.first order
  -- The tiling ends with the bucket before the end, so it is cut there.
  obtain ⟨early, late, rfl, _, rest⟩ := tiles.exists_cut adjacent.first since (le_of_lt adjacent.later)
  obtain rfl := rest.unique (.step adjacent .done)
  have each : ∀ b ∈ early ++ [last], ∃ text, (r.calendar weekStart).label g b = .ok text := by
    intro b member
    obtain ⟨_, low, high⟩ := tiles.mem_iff.1 member
    obtain ⟨l, run, _⟩ := toLocal_spec r ((near.start.between near.stop low (le_of_lt high)).mono 1 (by decide))
    exact ⟨_, map_eq_ok_iff.2 ⟨l, run, rfl⟩⟩
  obtain ⟨labels, labelled⟩ := exists_mapM each
  have texts := mapM_eq_ok_iff.1 labelled
  have head := tiles.head
  rw [List.head?_append_of_ne_nil _ (List.concat_ne_nil last early)] at head
  have firstText := congrArg List.head? texts
  have lastText := congrArg List.getLast? texts
  rw [List.head?_map, head, List.head?_map, Option.map_some, eq_comm, Option.map_eq_some_iff] at firstText
  rw [List.getLast?_map, List.getLast?_concat, List.getLast?_map, Option.map_some, eq_comm,
    Option.map_eq_some_iff] at lastText
  obtain ⟨a, isFirst, labelFirst⟩ := firstText
  obtain ⟨b, isLast, labelLast⟩ := lastText
  refine ⟨_, labels, (a, b), tiles.bucketStarts, labelled, ?_, isFirst, isLast⟩
  simp only [Calendar.inclusiveRange, byClock, Bool.false_eq_true, if_false, previous, Option.filter_some, since,
    decide_true, if_true, Option.getD_some, Calendar.clockText_eq_label _ byClock, ← labelFirst, ← labelLast, bind,
    Except.bind, pure, Except.pure]

omit regular aligned inside

/-- Over a regular rule the labels of a normalized period are the calendar, and the range
    shown for it agrees with them. -/
theorem labels_agree (regular : r.Regular g) (weekStart : Weekday) {rawStart rawStop : Instant} {p : Period}
    (normalized : (r.calendar weekStart).normalize g rawStart rawStop = .ok p)
    (inside : p.start.InsideBy Moment.quarterCentury) :
    ∃ s labels range, (r.calendar weekStart).bucketSequence g p = .ok s ∧
      (r.calendar weekStart).labels s = .ok labels ∧ (r.calendar weekStart).inclusiveRange g p = .ok range ∧
      g.LabelsAgree weekStart labels range := by
  obtain ⟨insideStart, insideStop, _⟩ := Calendar.normalize_inside normalized inside
  have near : p.InsideBy 200 := ⟨insideStart.mono _ (by decide), insideStop.mono _ (by decide)⟩
  have aligned := alignedPeriod_of_normalize regular.aligns near normalized
  have far : p.InsideBy 120 := near.mono _ (by decide)
  cases byDate : g.isCalendar with
  | true =>
    have cut : g.unitSeconds? = none := Option.isNone_iff_eq_none.1 byDate
    obtain ⟨starts, dates, first, last, final, listed, labelled, range, leads, head, tail, length⟩ :=
      exists_dateLabels regular weekStart aligned far cut
    exact ⟨⟨g, p.timezone, starts⟩, _, _, Calendar.bucketSequence_eq_ok_iff.2 ⟨starts, listed, rfl⟩, labelled, range,
      leads.labelsAgree cut head tail length⟩
  | false =>
    obtain ⟨starts, labels, range, listed, labelled, shown, head, tail⟩ :=
      exists_clockLabels regular weekStart aligned far byDate
    refine ⟨⟨g, p.timezone, starts⟩, labels, range, Calendar.bucketSequence_eq_ok_iff.2 ⟨starts, listed, rfl⟩, labelled,
      shown, ?_⟩
    cases g with
    | minute | hour => exact ⟨head, tail⟩
    | day | week | month => cases byDate

/-- The clock of Beirut in 2024, an hour ahead from 31 March, which has no midnight, to
    26 October. -/
def beirut2024 : FixedRule where
  id := "Asia/Beirut"
  standard := ⟨7200, by decide, by decide⟩
  daylight := some {
    offset := ⟨10800, by decide, by decide⟩
    start := (Moment.ofSeconds? 1711836000).get (by decide)
    stop := (Moment.ofSeconds? 1729976400).get (by decide) }

theorem regular_beirut2024 : beirut2024.Regular .day := by decide

/-- Three days in Beirut, the second of which begins at one o'clock. -/
theorem beirut2024_labels :
    ∃ p s, (beirut2024.calendar .monday).normalize .day (.midnight ⟨19812, by decide, by decide⟩)
        (.midnight ⟨19814, by decide, by decide⟩) = .ok p ∧
      (beirut2024.calendar .monday).bucketSequence .day p = .ok s ∧
      (beirut2024.calendar .monday).labels s = .ok ["2024-03-30", "2024-03-31", "2024-04-01"] ∧
      (beirut2024.calendar .monday).inclusiveRange .day p = .ok ("2024-03-30", "2024-04-01") ∧
      Granularity.day.LabelsAgree .monday ["2024-03-30", "2024-03-31", "2024-04-01"] ("2024-03-30", "2024-04-01") := by
  have normalized : (beirut2024.calendar .monday).normalize .day (.midnight ⟨19812, by decide, by decide⟩)
      (.midnight ⟨19814, by decide, by decide⟩) = .ok ⟨(Moment.ofSeconds? 1711749600).get (by decide),
        (Moment.ofSeconds? 1712005200).get (by decide), "Asia/Beirut"⟩ := by decide +kernel
  obtain ⟨s, labels, range, sequence, labelled, shown, agree⟩ :=
    labels_agree regular_beirut2024 .monday normalized (by decide)
  have texts : (do (beirut2024.calendar .monday).labels (← (beirut2024.calendar .monday).bucketSequence .day
      ⟨(Moment.ofSeconds? 1711749600).get (by decide), (Moment.ofSeconds? 1712005200).get (by decide), "Asia/Beirut"⟩)) =
      .ok ["2024-03-30", "2024-03-31", "2024-04-01"] := by decide +kernel
  have ends : (beirut2024.calendar .monday).inclusiveRange .day ⟨(Moment.ofSeconds? 1711749600).get (by decide),
      (Moment.ofSeconds? 1712005200).get (by decide), "Asia/Beirut"⟩ = .ok ("2024-03-30", "2024-04-01") := by
    decide +kernel
  obtain ⟨_, again, isLabels⟩ := bind_eq_ok_iff.1 texts
  obtain rfl := Except.ok.inj (again.symm.trans sequence)
  obtain rfl := Except.ok.inj (labelled.symm.trans isLabels)
  obtain rfl := Except.ok.inj (shown.symm.trans ends)
  exact ⟨_, _, normalized, sequence, labelled, shown, agree⟩

end FixedRule

end BucketPlan
