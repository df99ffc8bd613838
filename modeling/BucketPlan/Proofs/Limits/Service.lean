import BucketPlan.Proofs.Limits.Bounds
import BucketPlan.Proofs.Limits.Plan

/-!
Every request for a plan has a response, unless it leaves the representable years
(`App.respond_answers_iff`): it starts with the first date of all by a clock that is ahead of
UTC, its first bucket begins with that date, or its comparison overruns. Zones that began with
the time of UTC never do (`App.LeavesYears.offset_ne_zero`). The day before the first one,
asked for by a clock behind UTC, is a request without a response (`App.westernFirstDay_overflow`).
-/

namespace BucketPlan

/-! ## Comparisons of a request -/

theorem CompareMode.read_custom {raw : Option String} {start stop : Option Instant} {a b : Instant}
    (run : CompareMode.read raw start stop = .ok (.custom a b)) : start = some a ∧ stop = some b := by
  unfold CompareMode.read at run
  split at run <;> try cases run
  split at run
  · cases run
    exact ⟨rfl, rfl⟩
  · cases run

namespace App

variable {app : App} {now : Instant} {r : PlanRequest}

section Settled
variable {cal : Calendar} {early late : Offset} (settled : cal.zone.Settled early late)
include settled

theorem comparisonOf_overflow_iff :
    comparisonOf cal r = .error .overflow ↔ 0 < early.seconds ∧ NamesFirstDate r.compareStartDate := by
  simp [comparisonOf, bind_eq_error_iff, Calendar.readBound?_overflow_iff settled, Refusal.lift_ne_overflow]

theorem bounds_of_comparisonOf {mode : CompareMode} (run : comparisonOf cal r = .ok mode) :
    cal.BoundsComparison mode := by
  simp only [comparisonOf, bind_eq_ok_iff, Refusal.lift_eq_ok_iff] at run
  obtain ⟨start, readStart, stop, readStop, read⟩ := run
  cases mode with
  | off | previousPeriod | previousYear => trivial
  | custom a b =>
    obtain ⟨rfl, rfl⟩ := CompareMode.read_custom read
    exact ⟨Calendar.bounding_of_readBound? settled readStart, Calendar.bounding_of_readBound? settled readStop⟩

theorem granularityOf_ne_overflow {named : Option String} {start stop : Instant} (bounding : cal.Bounding start)
    (ending : cal.Ending stop) : granularityOf cal named start stop ≠ .error .overflow := by
  cases named with
  | some raw => exact Refusal.lift_ne_overflow
  | none =>
    obtain ⟨span, found⟩ := Calendar.exists_dateSpan settled bounding ending
    have lifted : (liftM (cal.dateSpan start stop) : Except Failure (Date × Date)) = .ok span :=
      Overflow.monadLift_eq_ok_iff.2 found
    simp [granularityOf, lifted, bind, Except.bind, pure, Except.pure]

variable (inside : now.InsideBy 400) (few : app.settings.defaultLookbackDays ≤ 365)
include inside few

/-- The selection of a request overflows where its start is the first date of all, or, its selection
    and granularity being read, the start of its comparison is, by a clock that is ahead of UTC. -/
theorem selectionOf_overflow_iff :
    app.selectionOf now cal r = .error .overflow ↔
      0 < early.seconds ∧ (NamesFirstDate r.startDate ∨ NamesFirstDate r.compareStartDate ∧
        ∃ start stop g,
          cal.readSelection now app.settings.defaultLookbackDays r.startDate r.endDate = .ok (start, stop) ∧
          granularityOf cal r.granularity start stop = .ok g) := by
  simp only [selectionOf, bind_eq_error_iff, Calendar.readSelection_overflow_iff settled inside few, Prod.exists,
    comparisonOf_overflow_iff settled, pure_ne_error, and_false, exists_false, or_false]
  constructor
  · rintro (⟨ahead, names⟩ | ⟨start, stop, read, error | ⟨g, found, ahead, names⟩⟩)
    · exact ⟨ahead, .inl names⟩
    · obtain ⟨bounding, ending⟩ := Calendar.bounds_of_readSelection settled inside read
      exact absurd error (granularityOf_ne_overflow settled bounding ending)
    · exact ⟨ahead, .inr ⟨names, start, stop, g, read, found⟩⟩
  · rintro ⟨ahead, names | ⟨names, start, stop, g, read, found⟩⟩
    · exact .inl ⟨ahead, names⟩
    · exact .inr ⟨start, stop, read, .inr ⟨g, found, ahead, names⟩⟩

omit few in
theorem bounds_of_selectionOf {s : Selection} (run : app.selectionOf now cal r = .ok s) :
    cal.Bounding s.start ∧ cal.Bounding s.stop ∧ cal.BoundsComparison s.compare := by
  simp only [selectionOf, bind_eq_ok_iff, Prod.exists, pure_eq_ok_iff] at run
  obtain ⟨start, stop, read, g, _, mode, compared, rfl⟩ := run
  obtain ⟨bounding, ending⟩ := Calendar.bounds_of_readSelection settled inside read
  exact ⟨bounding, ending.toBounding, bounds_of_comparisonOf settled compared⟩

end Settled

/-! ## Plans of a request -/

/-- The zone of a request: its own, or the configured one. -/
def zoneFor? (app : App) (timezone : Option String) : Option Zone :=
  match timezone with
  | some raw => app.zones.named? raw
  | none => some app.defaultZone

/-- The calendar of a request in its zone. -/
def calendarIn (app : App) (z : Zone) : Calendar := ⟨z, app.settings.weekStart⟩

theorem calendar_eq_ok_iff {timezone : Option String} {cal : Calendar} :
    app.calendar timezone = .ok cal ↔ ∃ z, app.zoneFor? timezone = some z ∧ cal = app.calendarIn z := by
  cases timezone with
  | none => simp [calendar, zoneFor?, calendarIn, bind, Except.bind, pure, Except.pure, eq_comm]
  | some raw =>
    cases found : app.zones.named? raw with
    | none => simp [calendar, zoneFor?, ZoneDatabase.read, found, bind, Except.bind]
    | some z =>
      simp [calendar, zoneFor?, calendarIn, ZoneDatabase.read, found, bind, Except.bind, pure, Except.pure, eq_comm]

/-- A request for a plan leaves the representable years in the zone: by the first date of all as a
    start, by a clock that is ahead of UTC, or in planning its selection. -/
def LeavesYears (app : App) (now : Instant) (r : PlanRequest) (z : Zone) : Prop :=
  0 < z.firstOffset.seconds ∧ NamesFirstDate r.startDate ∨
    0 < z.firstOffset.seconds ∧ NamesFirstDate r.compareStartDate ∧
      (∃ start stop g, (app.calendarIn z).readSelection now app.settings.defaultLookbackDays r.startDate r.endDate =
        .ok (start, stop) ∧ granularityOf (app.calendarIn z) r.granularity start stop = .ok g) ∨
    ∃ s, app.selectionOf now (app.calendarIn z) r = .ok s ∧ (app.calendarIn z).LeavesYears z.firstOffset s

/-- In a zone that began with the time of UTC no request leaves the representable years. -/
theorem LeavesYears.offset_ne_zero {z : Zone} (leaves : app.LeavesYears now r z) : z.firstOffset.seconds ≠ 0 := by
  rcases leaves with ⟨ahead, _⟩ | ⟨ahead, _⟩ | ⟨_, _, leaves⟩
  · omega
  · omega
  · exact leaves.offset_ne_zero

variable {zones : ZoneDatabase} {words : List UInt8 → String} {settings : Settings}
  (built : App.build zones words settings = .ok app)
include built

theorem parts_of_build :
    app.settings = settings ∧ app.zones = zones ∧ zones.named? settings.defaultTimezone = some app.defaultZone := by
  obtain ⟨z, policy, named, _, rfl⟩ := build_eq_ok_iff.1 built
  exact ⟨rfl, rfl, named⟩

variable (settles : zones.Settles)
include settles

theorem settled_of_zoneFor? {timezone : Option String} {z : Zone} (found : app.zoneFor? timezone = some z) :
    ∃ late, (app.calendarIn z).zone.Settled z.firstOffset late := by
  obtain ⟨_, same, default⟩ := parts_of_build built
  cases timezone with
  | some raw =>
    rw [zoneFor?, same] at found
    exact settles.settled_of_named? found
  | none =>
    cases found
    exact settles.settled_of_named? default

variable (few : settings.defaultLookbackDays ≤ 365) (inside : now.InsideBy 400)
include few inside

theorem answerIn_overflow_iff (id : String) {z : Zone} (found : app.zoneFor? r.timezone = some z) :
    (app.selectionOf now (app.calendarIn z) r = .error .overflow ∨
      ∃ s, app.selectionOf now (app.calendarIn z) r = .ok s ∧ ((app.calendarIn z).plan id s = .error .overflow ∨
        ∃ q, (app.calendarIn z).plan id s = .ok q ∧
          planJson (app.calendarIn z) s.granularity q = .error .outOfRange)) ↔ app.LeavesYears now r z := by
  rw [← (parts_of_build built).1] at few
  obtain ⟨late, settled⟩ := settled_of_zoneFor? built settles found
  rw [selectionOf_overflow_iff settled inside few, LeavesYears]
  constructor
  · rintro (⟨ahead, names | ⟨names, read⟩⟩ | ⟨s, selected, overflow⟩)
    · exact .inl ⟨ahead, names⟩
    · exact .inr (.inl ⟨ahead, names, read⟩)
    · obtain ⟨start, stop, compare⟩ := bounds_of_selectionOf settled inside selected
      rcases overflow with overflow | ⟨q, planned, overflow⟩
      · exact .inr (.inr ⟨s, selected, (Calendar.plan_overflow_iff settled start stop compare id).1 overflow⟩)
      · obtain ⟨json, told⟩ := Calendar.exists_planJson settled start stop compare planned
        rw [told] at overflow
        cases overflow
  · rintro (⟨ahead, names⟩ | ⟨ahead, names, read⟩ | ⟨s, selected, leaves⟩)
    · exact .inl ⟨ahead, .inl names⟩
    · exact .inl ⟨ahead, .inr ⟨names, read⟩⟩
    · obtain ⟨start, stop, compare⟩ := bounds_of_selectionOf settled inside selected
      exact .inr ⟨s, selected, .inl ((Calendar.plan_overflow_iff settled start stop compare id).2 leaves)⟩

theorem planAnswer_overflow_iff (id : String) :
    app.planAnswer now id r = .error .overflow ↔ ∃ z, app.zoneFor? r.timezone = some z ∧ app.LeavesYears now r z := by
  simp only [planAnswer, bind_eq_error_iff, Refusal.monadLift_ne_overflow, Refusal.monadLift_eq_ok_iff,
    calendar_eq_ok_iff, Overflow.monadLift_eq_error_iff, false_or]
  constructor
  · rintro ⟨_, ⟨z, found, rfl⟩, overflow⟩
    exact ⟨z, found, (answerIn_overflow_iff built settles few inside id found).1 overflow⟩
  · rintro ⟨z, found, leaves⟩
    exact ⟨_, ⟨z, found, rfl⟩, (answerIn_overflow_iff built settles few inside id found).2 leaves⟩

end App

/-! ## Responses -/

/-- A problem is reported with a code, a message and perhaps the field at fault. -/
def Response.Reports (response : Response) (status : Nat) : Prop :=
  response.status = status ∧
    ∃ code message field, response.body = (Response.problem status code message field).body

namespace App

variable {app : App} {now : Instant} {r : Request}

/-- What is promised for a website: one that cannot be is not found, and for all others there is a
    plan or a problem. -/
def AnswersFor (app : App) (now : Instant) (id : String) (r : Request) (response : Response) : Prop :=
  if IsWebsiteId id then
    (response.status = 200 ∧ ∃ body json, PlanRequest.ofRequest r = .ok body ∧
      app.planAnswer now id body = .ok json ∧ response.body = .json json) ∨ response.Reports 400
  else response.Reports 404

/-- What is promised to a request for a plan; a website that is not UTF-8 is rejected. -/
def Answers (app : App) (now : Instant) (segment : String) (r : Request) (response : Response) : Prop :=
  match Target.segmentText? segment with
  | none => response.status = 400
  | some id => app.AnswersFor now id r response

/-- A request for a plan leaves the representable years, once its website and its body are read. -/
def RequestLeavesYears (app : App) (now : Instant) (segment : String) (r : Request) : Prop :=
  ∃ id body z, Target.segmentText? segment = some id ∧ IsWebsiteId id ∧ PlanRequest.ofRequest r = .ok body ∧
    app.zoneFor? body.timezone = some z ∧ app.LeavesYears now body z

theorem respondPlan_answers {id : String} {response : Response} (run : app.respondPlan now id r = .ok response) :
    app.AnswersFor now id r response := by
  unfold respondPlan at run
  unfold AnswersFor
  by_cases website : IsWebsiteId id
  · simp only [website, not_true_eq_false, if_false, if_true] at run ⊢
    split at run
    · cases run
      exact .inr ⟨rfl, _, _, _, rfl⟩
    · next body read =>
      split at run
      · next json answer =>
        cases run
        exact .inl ⟨rfl, body, json, read, answer, rfl⟩
      · cases run
        exact .inr ⟨rfl, _, _, _, rfl⟩
      · cases run
  · simp only [website, not_false_eq_true, if_true, if_false] at run ⊢
    cases run
    exact ⟨rfl, _, _, _, rfl⟩

theorem respondPlan_overflow_iff {id : String} :
    app.respondPlan now id r = .error .outOfRange ↔
      IsWebsiteId id ∧ ∃ body, PlanRequest.ofRequest r = .ok body ∧ app.planAnswer now id body = .error .overflow := by
  unfold respondPlan
  by_cases website : IsWebsiteId id
  · simp only [website, not_true_eq_false, if_false, true_and]
    cases PlanRequest.ofRequest r with
    | error fault => simp
    | ok body =>
      simp only [Except.ok.injEq, exists_eq_left']
      split <;> simp [*]
  · simp [website]

section Post
variable (post : r.method = "POST") {segment : String}
  (path : Target.segments r.target = ["", "api", "websites", segment, "query-plan"])
include post path

theorem respond_of_website {id : String} (text : Target.segmentText? segment = some id) :
    app.respond now r = do
      return { (← app.respondPlan now id r) with allowOrigin := app.origins.answer (r.header? "origin") } := by
  have routed : app.route now r = app.respondPlan now id r := by simp [route, path, post, text]
  simp [respond, post, routed]

theorem respond_of_none (text : Target.segmentText? segment = none) :
    ∃ response, app.respond now r = .ok response ∧ response.status = 400 := by
  simp [respond, route, path, post, text, bind, Except.bind, pure, Except.pure]

theorem answers_of_respond {response : Response} (run : app.respond now r = .ok response) :
    app.Answers now segment r response := by
  unfold Answers
  cases text : Target.segmentText? segment with
  | none =>
    obtain ⟨_, answer, status⟩ : ∃ response, app.respond now r = .ok response ∧ response.status = 400 :=
      respond_of_none post path text
    rw [answer] at run
    cases run
    exact status
  | some id =>
    rw [respond_of_website post path text, bind_eq_ok_iff] at run
    obtain ⟨inner, answer, same⟩ := run
    cases same
    -- Who may read a response is no part of what is promised.
    have answers := respondPlan_answers answer
    exact answers

variable {zones : ZoneDatabase} {words : List UInt8 → String} {settings : Settings} (settles : zones.Settles)
  (built : App.build zones words settings = .ok app) (few : settings.defaultLookbackDays ≤ 365)
  (inside : now.InsideBy 400)
include settles built few inside

theorem respond_overflow_iff :
    app.respond now r = .error .outOfRange ↔ app.RequestLeavesYears now segment r := by
  cases text : Target.segmentText? segment with
  | none =>
    obtain ⟨response, answer, _⟩ : ∃ response, app.respond now r = .ok response ∧ response.status = 400 :=
      respond_of_none post path text
    simp [answer, RequestLeavesYears, text]
  | some id =>
    simp only [respond_of_website post path text, bind_eq_error_iff, pure_ne_error, and_false, exists_false, or_false,
      respondPlan_overflow_iff, planAnswer_overflow_iff built settles few inside, RequestLeavesYears, text,
      Option.some.injEq, exists_and_left, exists_eq_left']

/-- A request for a plan is answered as promised just where it does not leave the representable years. -/
theorem respond_answers_iff :
    (∃ response, app.respond now r = .ok response ∧ app.Answers now segment r response) ↔
      ¬ app.RequestLeavesYears now segment r := by
  rw [← respond_overflow_iff post path settles built few inside]
  constructor
  · rintro ⟨response, answer, _⟩ overflow
    rw [answer] at overflow
    cases overflow
  · intro stays
    cases run : app.respond now r with
    | error e => exact absurd run stays
    | ok response => exact ⟨response, rfl, answers_of_respond post path run⟩

end Post

/-! ## Any request -/

/-- A request leaves the representable years when it asks for a plan that does. -/
def AskedBeyondYears (app : App) (now : Instant) (r : Request) : Prop :=
  r.method = "POST" ∧ ∃ segment, Target.segments r.target = ["", "api", "websites", segment, "query-plan"] ∧
    app.RequestLeavesYears now segment r

theorem exists_respond (now : Instant) {r : Request} (other : r.method = "POST" →
    ∀ segment, Target.segments r.target ≠ ["", "api", "websites", segment, "query-plan"]) :
    ∃ response, app.respond now r = .ok response := by
  have routed : ∃ response, app.route now r = .ok response := by
    unfold route
    split
    · exact ⟨_, rfl⟩
    · exact ⟨_, rfl⟩
    · next segment path =>
      rw [if_pos fun post => other post segment path]
      exact ⟨_, rfl⟩
    · exact ⟨_, rfl⟩
  obtain ⟨response, answer⟩ := routed
  unfold respond
  split
  · exact ⟨_, rfl⟩
  · rw [answer]
    exact ⟨_, rfl⟩

section Built
variable {zones : ZoneDatabase} {words : List UInt8 → String} {settings : Settings} (settles : zones.Settles)
  (built : App.build zones words settings = .ok app) (few : settings.defaultLookbackDays ≤ 365)
  (inside : now.InsideBy 400)
include settles built few inside

theorem exists_respond_iff : (∃ response, app.respond now r = .ok response) ↔ ¬ app.AskedBeyondYears now r := by
  by_cases plan : r.method = "POST" ∧
      ∃ segment, Target.segments r.target = ["", "api", "websites", segment, "query-plan"]
  · obtain ⟨post, segment, path⟩ := plan
    have beyond : app.AskedBeyondYears now r ↔ app.respond now r = .error .outOfRange := by
      rw [respond_overflow_iff post path settles built few inside]
      simp [AskedBeyondYears, post, path]
    rw [beyond, Overflow.eq_error_iff, not_not]
  · have answered : ∃ response, app.respond now r = .ok response :=
      exists_respond now fun post segment path => plan ⟨post, segment, path⟩
    have stays : ¬ app.AskedBeyondYears now r := fun ⟨post, segment, path, _⟩ => plan ⟨post, segment, path⟩
    exact iff_of_true answered stays

end Built

/-! A day that cannot be compared: the one before it began before the first second, where a clock behind
UTC does not show anything. -/

/-- The service with the settings that are in place of missing variables, and the zones of the catalog. -/
def byDefault : App where
  settings := {}
  zones := .ofCatalog
  misfitWords := fun _ => ""
  defaultZone := (ZoneTable.ofRecord "UTC" (.fixed (ZoneRecord.east 0 0 0))).zone
  origins := .any

/-- Noon of 15 June 2024. -/
def june2024 : Instant := (Moment.ofSeconds? 1718452800).get (by decide)

/-- The first day of all twelve hours behind UTC, compared with the day before. -/
def westernFirstDay : Request where
  method := "POST"
  target := "/api/websites/site/query-plan"
  headers := [("content-type", "application/json")]
  body := ("\x7b\"start_date\":\"-262143-01-01\",\"end_date\":\"-262143-01-01\",\"granularity\":\"day\"," ++
    "\"timezone\":\"Etc/GMT+12\",\"compare_mode\":\"previous_period\"\x7d").toUTF8.toList

theorem westernFirstDay_answers_iff :
    ZoneDatabase.ofCatalog.Settles ∧ App.build .ofCatalog (fun _ => "") {} = .ok byDefault ∧ june2024.InsideBy 400 ∧
      ((∃ response, byDefault.respond june2024 westernFirstDay = .ok response ∧
        byDefault.Answers june2024 "site" westernFirstDay response) ↔
          ¬ byDefault.RequestLeavesYears june2024 "site" westernFirstDay) := by
  have settles := ZoneDatabase.ofCatalog_settles
  have built : App.build .ofCatalog (fun _ => "") {} = .ok byDefault := rfl
  have inside : june2024.InsideBy 400 := by rw [Moment.insideBy_def]; decide
  exact ⟨settles, built, inside, respond_answers_iff rfl (by decide +kernel) settles built (by decide) inside⟩

/-- There is no response: the walk to the day before comes to an instant without a local time. -/
theorem westernFirstDay_overflow :
    App.build .ofCatalog (fun _ => "") {} = .ok byDefault ∧
      byDefault.respond june2024 westernFirstDay = .error .outOfRange := by
  refine ⟨rfl, ?_⟩
  have fails : (byDefault.respond june2024 westernFirstDay).toBool = false := by decide +kernel
  cases run : byDefault.respond june2024 westernFirstDay with
  | error e => cases e; rfl
  | ok response => simp [run, Except.toBool] at fails

end App

end BucketPlan
