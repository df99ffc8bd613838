import BucketPlan.Proofs.Plan.Consistency
import BucketPlan.Zone.FixedRule

/-!
The filters of a selection are checked one after the other, before anything else, and an
accepted plan hands them on as they are (`plan_of_filters`, `plan_of_fault`). What is promised
of a value is at most 256 characters (`Filter.Faulty`), but its bytes are counted: a text that
is within the limit by its characters and past it by their bytes (`Filter.Wide`) is refused as
too long. So plans treat filters as promised just where no such text decides
(`plan_checksFilters_iff`).
-/

namespace BucketPlan

theorem length_le_utf8ByteSize (text : String) : text.length ≤ text.utf8ByteSize := by
  have chars : ∀ cs : List Char, cs.length ≤ (String.ofList cs).utf8ByteSize := by
    intro cs
    induction cs with
    | nil => exact Nat.zero_le _
    | cons c cs ih =>
      have parts : String.ofList (c :: cs) = String.singleton c ++ String.ofList cs := by
        rw [String.singleton_eq_ofList, ← String.ofList_append, List.singleton_append]
      have positive := c.utf8Size_pos
      rw [parts, String.utf8ByteSize_append, String.utf8ByteSize_singleton, List.length_cons]
      omega
  have all := chars text.toList
  rwa [String.length_toList, String.ofList_toList] at all

/-! ## Faults -/

namespace Filter

/-- What the limit of a value is said to count: its characters. -/
def maxValueChars : Nat := 256

/-- What filters are said to be refused for: an unknown column, a blank value, or a value of too
    many characters. -/
def Faulty (f : Filter) : Prop :=
  f.column ∉ columns ∨ Blank.trimText f.value = "" ∨ maxValueChars < (Blank.trimText f.value).length

instance (f : Filter) : Decidable f.Faulty := inferInstanceAs (Decidable (_ ∨ _))

/-- The value is within the limit by its characters and past it by their bytes. -/
def Wide (f : Filter) : Prop := ¬ f.Faulty ∧ maxValueBytes < (Blank.trimText f.value).utf8ByteSize

instance (f : Filter) : Decidable f.Wide := inferInstanceAs (Decidable (_ ∧ _))

theorem fault?_isSome_iff (f : Filter) : f.fault?.isSome ↔ f.Faulty ∨ f.Wide := by
  have bytes := length_le_utf8ByteSize (Blank.trimText f.value)
  by_cases column : f.column ∉ columns
  · simp [fault?, Faulty, column]
  · by_cases blank : Blank.trimText f.value = ""
    · simp [fault?, Faulty, column, blank]
    · by_cases long : maxValueBytes < (Blank.trimText f.value).utf8ByteSize
      · simp only [fault?, Wide, column, blank, long, if_false, if_true, Option.isSome_some, and_true, true_iff]
        exact Classical.em f.Faulty
      · have short : ¬ maxValueChars < (Blank.trimText f.value).length := by
          unfold maxValueBytes at long
          unfold maxValueChars
          omega
        simp [fault?, Wide, Faulty, column, blank, long, short]

/-- A wide value is refused as too long. -/
theorem Wide.fault? {f : Filter} (wide : f.Wide) : f.fault? = some (.longValue f.column) := by
  obtain ⟨sound, long⟩ := wide
  unfold Faulty at sound
  rw [not_or, not_or] at sound
  rw [Filter.fault?, if_neg sound.1, if_neg sound.2.1, if_pos long]

end Filter

namespace Calendar

theorem forM_check_error {filters : List Filter} {fault : FilterFault} :
    (filters.forM fun f => Refusal.lift f.check) = .error (.refused (.badFilter fault)) ↔
      filters.findSome? Filter.fault? = some fault := by
  induction filters with
  | nil => simp [pure, Except.pure]
  | cons f rest ih =>
    cases found : f.fault? with
    | some reason => simp [List.forM_cons, Filter.check, found, Refusal.lift, bind, Except.bind]
    | none =>
      have here : Refusal.lift f.check = .ok () := by rw [Filter.check, found, Refusal.lift]
      simp only [List.forM_eq_forM, List.forM_cons, here, bind, Except.bind, List.findSome?_cons, found]
      exact ih

end Calendar

/-! ## Plans with other filters -/

/-- The plan with these filters in its queries, and all else as it is. -/
def QueryPlan.withFilters (q : QueryPlan) (filters : List Filter) : QueryPlan :=
  { q with queries := ⟨{ q.queries.main with filters }, q.queries.compare.map ({ · with filters })⟩ }

namespace Calendar

variable {cal : Calendar} {siteId : String} {s : Selection} {q : QueryPlan}

/-- The first fault of a filter ends a plan, whatever else is selected. -/
theorem plan_of_fault {fault : FilterFault} (found : s.filters.findSome? Filter.fault? = some fault) :
    cal.plan siteId s = .error (.refused (.badFilter fault)) := by
  have resolved : cal.analyticsQuery s = .error (.refused (.badFilter fault)) :=
    bind_eq_error_iff.2 (.inl (forM_check_error.2 found))
  exact bind_eq_error_iff.2 (.inl resolved)

section Accepted
variable (accepted : cal.plan siteId { s with filters := [] } = .ok q)
include accepted

/-- A selection that is accepted without filters is accepted with those that have no fault, and
    its queries carry them. -/
theorem plan_of_filters (sound : ∀ f ∈ s.filters, f.fault? = none) :
    cal.plan siteId s = .ok (q.withFilters s.filters) := by
  simp only [plan, bind_eq_ok_iff, pure_eq_ok_iff, Overflow.monadLift_eq_ok_iff] at accepted ⊢
  obtain ⟨query, resolved, mainBuckets, listed, parts, compared, rfl⟩ := accepted
  obtain ⟨main, compare, normalized, answer, rfl⟩ := analyticsQuery_of_ok resolved
  refine ⟨⟨main, compare, s.granularity, s.filters, cal.zone.id, s.aux⟩, ?_, mainBuckets, listed, parts, compared, ?_⟩
  · exact analyticsQuery_eq_ok_iff.2 ⟨sound, main, compare, normalized, answer, rfl⟩
  · cases compare <;> rfl

theorem plan_badFilter_iff :
    (∃ fault, cal.plan siteId s = .error (.refused (.badFilter fault))) ↔ ∃ f ∈ s.filters, f.fault?.isSome := by
  constructor
  · rintro ⟨fault, refused⟩
    by_contra absent
    have sound : ∀ f ∈ s.filters, f.fault? = none := by
      intro f member
      exact Option.not_isSome_iff_eq_none.1 fun found => absent ⟨f, member, found⟩
    rw [plan_of_filters accepted sound] at refused
    cases refused
  · rintro ⟨f, member, found⟩
    obtain ⟨fault, first⟩ := Option.isSome_iff_exists.1 (List.findSome?_isSome_iff.2 ⟨f, member, found⟩)
    exact ⟨fault, plan_of_fault first⟩

end Accepted

/-- Beside a selection that is accepted without filters as `q`, filters are treated as promised:
    they are refused for what they are said to be refused for, and else carried along. -/
structure ChecksFilters (cal : Calendar) (siteId : String) (s : Selection) (q : QueryPlan) : Prop where
  refuses : (∃ fault, cal.plan siteId s = .error (.refused (.badFilter fault))) ↔ ∃ f ∈ s.filters, f.Faulty
  carries : (∀ f ∈ s.filters, ¬ f.Faulty) → cal.plan siteId s = .ok (q.withFilters s.filters)

/-- Faulty and wide filters are refused, and all others are carried along. So filters are treated
    as promised unless none of them is faulty and one is wide. -/
theorem plan_checksFilters_iff (accepted : cal.plan siteId { s with filters := [] } = .ok q) :
    ((∃ fault, cal.plan siteId s = .error (.refused (.badFilter fault))) ↔ ∃ f ∈ s.filters, f.Faulty ∨ f.Wide) ∧
      ((∀ f ∈ s.filters, ¬ f.Faulty ∧ ¬ f.Wide) → cal.plan siteId s = .ok (q.withFilters s.filters)) ∧
      (cal.ChecksFilters siteId s q ↔ ¬ ((∀ f ∈ s.filters, ¬ f.Faulty) ∧ ∃ f ∈ s.filters, f.Wide)) := by
  have refused := plan_badFilter_iff (s := s) accepted
  simp only [Filter.fault?_isSome_iff] at refused
  have carried : (∀ f ∈ s.filters, ¬ f.Faulty ∧ ¬ f.Wide) → cal.plan siteId s = .ok (q.withFilters s.filters) := by
    intro sound
    apply plan_of_filters accepted
    intro f member
    rw [← Option.not_isSome_iff_eq_none, f.fault?_isSome_iff, not_or]
    exact sound f member
  refine ⟨refused, carried, ?_⟩
  constructor
  · rintro ⟨refuses, _⟩ ⟨sound, f, member, wide⟩
    obtain ⟨e, listed, faulty⟩ := refuses.1 (refused.2 ⟨f, member, .inr wide⟩)
    exact sound e listed faulty
  · intro decided
    refine ⟨refused.trans ⟨?_, ?_⟩, ?_⟩
    · rintro ⟨f, member, faulty | wide⟩
      · exact ⟨f, member, faulty⟩
      · by_contra absent
        exact decided ⟨fun e listed faulty => absent ⟨e, listed, faulty⟩, f, member, wide⟩
    · rintro ⟨f, member, faulty⟩
      exact ⟨f, member, .inl faulty⟩
    · intro sound
      exact carried fun f member => ⟨sound f member, fun wide => decided ⟨sound, f, member, wide⟩⟩

/-- A week in UTC, day by day, compared with the week before. -/
def weekOf (filters : List Filter) : Selection where
  start := (Moment.ofSeconds? 1709510400).get (by decide)
  stop := (Moment.ofSeconds? 1710115200).get (by decide)
  granularity := .day
  compare := .previousPeriod
  filters := filters
  aux := {}

/-- The calendar of UTC. -/
def plainCalendar : Calendar := ⟨FixedRule.zone ⟨"UTC", .utc, none⟩, .monday⟩

theorem exists_plan_weekOf : ∃ q, plainCalendar.plan "site" (weekOf []) = .ok q := by
  have accepted : (plainCalendar.plan "site" (weekOf [])).isOk = true := by decide +kernel
  cases run : plainCalendar.plan "site" (weekOf []) with
  | error e => rw [run] at accepted; cases accepted
  | ok q => exact ⟨q, rfl⟩

theorem weekOf_checksFilters :
    ∃ q, plainCalendar.plan "site" (weekOf []) = .ok q ∧
      plainCalendar.ChecksFilters "site" (weekOf [⟨"city", .equal, " Łódź\u3000"⟩, ⟨"page", .notEqual, "/"⟩]) q := by
  obtain ⟨q, accepted⟩ := exists_plan_weekOf
  obtain ⟨_, _, checks⟩ :=
    plan_checksFilters_iff (s := weekOf [⟨"city", .equal, " Łódź\u3000"⟩, ⟨"page", .notEqual, "/"⟩]) accepted
  exact ⟨q, accepted, checks.2 (by decide +kernel)⟩

/-- A value of 129 characters, which take two bytes each. -/
def longCity : Filter := ⟨"city", .equal, String.ofList (List.replicate 129 'Ł')⟩

theorem longCity_wide : longCity.Wide := by
  have chars : Blank.trim (List.replicate 129 'Ł') = List.replicate 129 'Ł' := by decide +kernel
  have trimmed : Blank.trimText longCity.value = String.ofList (List.replicate 129 'Ł') := by
    rw [Blank.trimText, longCity, String.toList_ofList, chars]
  have length : (String.ofList (List.replicate 129 'Ł')).length = 129 := by
    rw [String.length_ofList, List.length_replicate]
  have bytes : (String.ofList (List.replicate 129 'Ł')).utf8ByteSize = 258 := by decide +kernel
  rw [Filter.Wide, Filter.Faulty, trimmed, length, bytes]
  refine ⟨?_, by decide⟩
  rintro (column | blank | long)
  · exact column (by decide)
  · rw [blank] at bytes
    exact absurd bytes (by decide)
  · exact absurd long (by decide)

/-- A value of half as many characters as are allowed is refused as too long. -/
theorem longCity_refused :
    ∃ q, plainCalendar.plan "site" (weekOf []) = .ok q ∧ ¬ longCity.Faulty ∧
      plainCalendar.plan "site" (weekOf [longCity]) = .error (.refused (.badFilter (.longValue "city"))) ∧
      ¬ plainCalendar.ChecksFilters "site" (weekOf [longCity]) q := by
  obtain ⟨q, accepted⟩ := exists_plan_weekOf
  have found : [longCity].findSome? Filter.fault? = some (.longValue "city") := by
    rw [List.findSome?_singleton, longCity_wide.fault?]
    rfl
  have refused : plainCalendar.plan "site" (weekOf [longCity]) = .error (.refused (.badFilter (.longValue "city"))) :=
    plan_of_fault found
  refine ⟨q, accepted, longCity_wide.1, refused, ?_⟩
  rintro ⟨refuses, _⟩
  obtain ⟨f, member, faulty⟩ := refuses.1 ⟨_, refused⟩
  rw [List.mem_singleton.1 member] at faulty
  exact longCity_wide.1 faulty

end Calendar

end BucketPlan
