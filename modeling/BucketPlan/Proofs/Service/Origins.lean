import BucketPlan.Proofs.Limits.Service
import BucketPlan.Proofs.Runs
import BucketPlan.Proofs.Text.Digits
import BucketPlan.Proofs.Text.Utf8
import BucketPlan.Service.App

/-!
From the environment to the header of a response. The origins of the settings are the entries that
the environment lists (`Settings.mem_corsOrigins_iff`), a service that is built lets in those of them
that can stand in a header, and any origin when none is listed (`App.enforces_of_build`). Settings
that were read also make a service, unless a star stands among the origins: it is read without a
complaint, but no service starts with it (`App.build_enforces_iff`).
-/

namespace BucketPlan

/-! ## Policies -/

namespace OriginPolicy

variable {origins : List String} {policy : OriginPolicy}

theorem ofOrigins?_eq_none_iff : ofOrigins? origins = none ↔ "*" ∈ origins := by
  have header : IsHeaderValue "*" := by
    have bytes : "*".toUTF8.toList = [0x2A] := Utf8.bytes_ofList ['*']
    intro b member
    rw [bytes, List.mem_singleton] at member
    rw [member]
    decide
  unfold ofOrigins?
  split
  · next none => simp [none]
  · simp [header]

theorem answer_of_nil (made : ofOrigins? [] = some policy) (origin : Option String) :
    policy.answer origin = some "*" := by
  cases made
  rfl

/-- Otherwise the origin of a request is let in when it is one of those in the settings and can
    stand in a header. -/
theorem answer_eq_some_iff (some_origin : origins ≠ []) (made : ofOrigins? origins = some policy)
    {origin : Option String} {o : String} :
    policy.answer origin = some o ↔ origin = some o ∧ o ∈ origins ∧ IsHeaderValue o := by
  rw [ofOrigins?, if_neg some_origin] at made
  simp only at made
  split at made
  · cases made
  · cases made
    simp [answer, Option.filter_eq_some_iff]

end OriginPolicy

/-! ## The environment -/

theorem ZoneDatabase.named?_trimText (zones : ZoneDatabase) (raw : String) :
    zones.named? (Blank.trimText raw) = zones.named? raw := by
  have again : Blank.trimText (Blank.trimText raw) = Blank.trimText raw := by
    rw [Blank.trimText, Blank.trimText, String.toList_ofList, Blank.trim_trim]
  rw [named?, named?, again]

namespace Settings

variable {zones : ZoneDatabase} {value : String → Option String} {settings : Settings}

/-- The entry stands between two commas of the text, or between one and an end. -/
def IsEntry (entry text : List Char) : Prop :=
  ',' ∉ entry ∧ ∃ before after, text = before ++ entry ++ after ∧
    (before = [] ∨ ∃ more, before = more ++ [',']) ∧ (after = [] ∨ ∃ more, after = ',' :: more)

/-- An origin that the environment lists: an entry without the blanks around it, when anything is left. -/
def Lists (value : String → Option String) (origin : String) : Prop :=
  origin ≠ "" ∧ ∃ raw entry, value "LUMENSTAT_CORS_ORIGINS" = some raw ∧ IsEntry entry raw.toList ∧
    String.ofList (Blank.trim entry) = origin

theorem mem_splitOn_iff {entry text : List Char} : entry ∈ text.splitOn ',' ↔ IsEntry entry text := by
  constructor
  · intro member
    by_cases comma : ',' ∈ text
    · obtain ⟨first, rest, parts, clear⟩ := List.eq_append_cons_of_mem comma
      have shorter : rest.length < text.length := by
        rw [parts, List.length_append, List.length_cons]
        omega
      rw [parts, List.splitOn_append_cons_self_of_not_mem clear] at member
      rcases List.mem_cons.1 member with rfl | later
      · exact ⟨clear, [], ',' :: rest, by rw [parts, List.nil_append], .inl rfl, .inr ⟨rest, rfl⟩⟩
      · obtain ⟨plain, before, after, split, left, right⟩ := mem_splitOn_iff.1 later
        refine ⟨plain, first ++ ',' :: before, after, by rw [parts, split]; simp, .inr ?_, right⟩
        rcases left with rfl | ⟨more, rfl⟩
        · exact ⟨first, rfl⟩
        · exact ⟨first ++ ',' :: more, by simp⟩
    · rw [List.splitOn_eq_singleton comma, List.mem_singleton] at member
      subst member
      exact ⟨comma, [], [], by simp, .inl rfl, .inl rfl⟩
  · rintro ⟨plain, before, after, rfl, left, right⟩
    -- A comma on either side splits the text there, and the entry itself is not split.
    have tail : entry ∈ (entry ++ after).splitOn ',' := by
      rcases right with rfl | ⟨more, rfl⟩
      · simp [List.splitOn_eq_singleton plain]
      · simp [List.splitOn_append_cons_self_of_not_mem plain]
    rcases left with rfl | ⟨more, rfl⟩
    · exact tail
    · have parts : more ++ [','] ++ entry ++ after = more ++ ',' :: (entry ++ after) := by simp
      rw [parts, List.splitOn_append_cons_self]
      exact List.mem_append_right _ tail
termination_by text.length

theorem mem_readOrigins_iff {origin : String} :
    origin ∈ ((value "LUMENSTAT_CORS_ORIGINS").map readOrigins).getD [] ↔ Lists value origin := by
  rw [Lists]
  cases value "LUMENSTAT_CORS_ORIGINS" with
  | none => simp
  | some raw =>
    simp only [Option.map_some, Option.getD_some, readOrigins, List.mem_filter, List.mem_map, decide_eq_true_eq,
      Option.some.injEq, exists_and_left, exists_eq_left', mem_splitOn_iff]
    exact And.comm

theorem le_of_readLookbackDays {raw : String} {days : Nat} (run : readLookbackDays raw = .ok days) : days ≤ 365 := by
  unfold readLookbackDays at run
  split at run
  · split at run
    · cases run
      omega
    · cases run
  · cases run

section Read
variable (accepted : ofEnvironment zones value = .ok settings)
include accepted

theorem of_ofEnvironment :
    settings.corsOrigins = ((value "LUMENSTAT_CORS_ORIGINS").map readOrigins).getD [] ∧
      settings.defaultLookbackDays ≤ 365 ∧
      ∃ raw z, zones.named? raw = some z ∧ settings.defaultTimezone = Blank.trimText raw := by
  simp only [ofEnvironment, ite_throw_eq_ok_iff, bind_eq_ok_iff, pure_eq_ok_iff] at accepted
  obtain ⟨named, _, _, _, _, days, lookback, rfl⟩ := accepted
  obtain ⟨z, found⟩ := Option.ne_none_iff_exists'.1 (mt Option.isNone_iff_eq_none.2 named)
  exact ⟨rfl, le_of_readLookbackDays lookback, _, z, found, rfl⟩

/-- The origins in the settings are those that the environment lists. -/
theorem mem_corsOrigins_iff {origin : String} : origin ∈ settings.corsOrigins ↔ Lists value origin := by
  rw [(of_ofEnvironment accepted).1, mem_readOrigins_iff]

theorem exists_named : ∃ z, zones.named? settings.defaultTimezone = some z := by
  obtain ⟨_, _, raw, z, found, trimmed⟩ := of_ofEnvironment accepted
  exact ⟨z, by rw [trimmed, zones.named?_trimText, found]⟩

end Read

end Settings

/-! ## The service -/

namespace App

variable {zones : ZoneDatabase} {words : List UInt8 → String} {value : String → Option String} {settings : Settings}
  {app : App}

/-- The responses of the service let in the configured origins and no others: any origin when none is
    configured, else the one of the request, as it stands there, when it is configured and can stand
    in a header. There is a response to everything but plans at all times. With settled zones, and while
    the clock shows no time near the ends of the representable years, there is one to every request
    that does not leave them. -/
structure Enforces (app : App) (configured : String → Prop) : Prop where
  star : ∀ now r response, app.respond now r = .ok response →
    (response.allowOrigin = some "*" ↔ ∀ o, ¬ configured o)
  echo : ∀ now r response, app.respond now r = .ok response → (∃ o, configured o) → ∀ o,
    (response.allowOrigin = some o ↔ r.header? "origin" = some o ∧ configured o ∧ OriginPolicy.IsHeaderValue o)
  answers : ∀ now r, r.method ≠ "POST" → ∃ response, app.respond now r = .ok response
  plans : app.zones.Settles → ∀ now r, now.InsideBy 400 →
    ((∃ response, app.respond now r = .ok response) ↔ ¬ app.AskedBeyondYears now r)

theorem allowOrigin_of_respond {now : Instant} {r : Request} {response : Response}
    (run : app.respond now r = .ok response) : response.allowOrigin = app.origins.answer (r.header? "origin") := by
  unfold respond at run
  split at run
  · cases run
    rfl
  · obtain ⟨_, _, same⟩ := bind_eq_ok_iff.1 run
    cases same
    rfl

/-- A service that was built enforces the origins of its settings. -/
theorem enforces_of_build (built : App.build zones words settings = .ok app)
    (few : settings.defaultLookbackDays ≤ 365) : app.Enforces (· ∈ settings.corsOrigins) := by
  obtain ⟨z, policy, _, made, rfl⟩ := build_eq_ok_iff.1 built
  refine ⟨?_, ?_, fun now _ reading => exists_respond now fun post => absurd post reading,
    fun settles _ _ => exists_respond_iff settles built few⟩
  · intro now r response run
    rw [allowOrigin_of_respond run]
    have plain : "*" ∉ settings.corsOrigins := by
      rw [← OriginPolicy.ofOrigins?_eq_none_iff, made]
      simp
    by_cases none : settings.corsOrigins = []
    · rw [none] at made ⊢
      simp [OriginPolicy.answer_of_nil made]
    · rw [OriginPolicy.answer_eq_some_iff none made, ← List.eq_nil_iff_forall_not_mem]
      simp [plain, none]
  · rintro now r response run ⟨one, listed⟩ o
    rw [allowOrigin_of_respond run]
    exact OriginPolicy.answer_eq_some_iff (List.ne_nil_of_mem listed) made

theorem build_of_star (accepted : Settings.ofEnvironment zones value = .ok settings)
    (star : Settings.Lists value "*") : App.build zones words settings = .error .wildcardOrigin := by
  obtain ⟨z, named⟩ := Settings.exists_named accepted
  rw [← Settings.mem_corsOrigins_iff accepted, ← OriginPolicy.ofOrigins?_eq_none_iff] at star
  simp only [App.build, named, star]

/-- Settings that were read make a service that enforces the origins of the environment, unless a
    star is listed; then no service starts. -/
theorem build_enforces_iff (accepted : Settings.ofEnvironment zones value = .ok settings) :
    ((∃ app, App.build zones words settings = .ok app ∧ app.Enforces (Settings.Lists value)) ↔
        ¬ Settings.Lists value "*") ∧
      (Settings.Lists value "*" → App.build zones words settings = .error .wildcardOrigin) := by
  obtain ⟨z, named⟩ := Settings.exists_named accepted
  have origins : (· ∈ settings.corsOrigins) = Settings.Lists value :=
    funext fun _ => propext (Settings.mem_corsOrigins_iff accepted)
  refine ⟨⟨?_, ?_⟩, build_of_star accepted⟩
  · rintro ⟨app, built, _⟩ star
    rw [build_of_star accepted star] at built
    cases built
  · intro plain
    rw [← Settings.mem_corsOrigins_iff accepted, ← OriginPolicy.ofOrigins?_eq_none_iff] at plain
    obtain ⟨policy, made⟩ := Option.ne_none_iff_exists'.1 plain
    have built : App.build zones words settings = .ok ⟨settings, zones, words, z, policy⟩ :=
      build_eq_ok_iff.2 ⟨z, policy, named, made, rfl⟩
    exact ⟨_, built, origins ▸ enforces_of_build built (Settings.of_ofEnvironment accepted).2.1⟩

/-- An environment in which only the origins are set. -/
def onlyOrigins (raw : String) (name : String) : Option String :=
  if name = "LUMENSTAT_CORS_ORIGINS" then some raw else none

theorem exists_ofEnvironment_onlyOrigins (utc : (zones.named? "UTC").isNone = false) (raw : String) :
    ∃ settings, Settings.ofEnvironment zones (onlyOrigins raw) = .ok settings := by
  have port : Settings.readPort "3000" = .ok 3000 := by decide +kernel
  have weekStart : Weekday.read "monday" = .ok .monday := by decide +kernel
  have days : Settings.readLookbackDays "6" = .ok 6 := by decide +kernel
  have unset : ∀ name, name ≠ "LUMENSTAT_CORS_ORIGINS" → onlyOrigins raw name = none := fun _ other => if_neg other
  simp only [Settings.ofEnvironment, unset "LUMENSTAT_DEFAULT_TIMEZONE" (by decide), unset "LUMENSTAT_PORT" (by decide),
    unset "LUMENSTAT_WEEK_START" (by decide), unset "LUMENSTAT_DEFAULT_LOOKBACK_DAYS" (by decide), Option.getD_none,
    utc, port, weekStart, days]
  exact ⟨_, rfl⟩

/-- Two origins with blanks and an empty entry between them. -/
def twoOrigins : String → Option String := onlyOrigins " https://a.example ,, https://b.example"

theorem twoOrigins_enforced :
    ∃ settings app, Settings.ofEnvironment .ofCatalog twoOrigins = .ok settings ∧
      App.build .ofCatalog (fun _ => "") settings = .ok app ∧ app.Enforces (Settings.Lists twoOrigins) ∧
      app.zones.Settles ∧ Settings.Lists twoOrigins "https://b.example" := by
  obtain ⟨settings, accepted⟩ : ∃ settings, Settings.ofEnvironment .ofCatalog twoOrigins = .ok settings :=
    exists_ofEnvironment_onlyOrigins (by decide +kernel) _
  have plain : ¬ Settings.Lists twoOrigins "*" := by
    rw [← Settings.mem_readOrigins_iff]
    decide +kernel
  have second : Settings.Lists twoOrigins "https://b.example" := by
    rw [← Settings.mem_readOrigins_iff]
    decide +kernel
  obtain ⟨app, built, enforces⟩ := (build_enforces_iff accepted).1.2 plain
  have settles : app.zones.Settles := (parts_of_build built).2.1 ▸ ZoneDatabase.ofCatalog_settles
  exact ⟨settings, app, accepted, built, enforces, settles, second⟩

/-- A star is read without a complaint, and no service starts. -/
theorem star_refused :
    ∃ settings, Settings.ofEnvironment .ofCatalog (onlyOrigins "*") = .ok settings ∧
      App.build .ofCatalog (fun _ => "") settings = .error .wildcardOrigin ∧
      ¬ ∃ app, App.build .ofCatalog (fun _ => "") settings = .ok app ∧
        app.Enforces (Settings.Lists (onlyOrigins "*")) := by
  obtain ⟨settings, accepted⟩ : ∃ settings, Settings.ofEnvironment .ofCatalog (onlyOrigins "*") = .ok settings :=
    exists_ofEnvironment_onlyOrigins (by decide +kernel) _
  have star : Settings.Lists (onlyOrigins "*") "*" := by
    rw [← Settings.mem_readOrigins_iff]
    decide +kernel
  have refused : App.build .ofCatalog (fun _ => "") settings = .error .wildcardOrigin := build_of_star accepted star
  refine ⟨settings, accepted, refused, ?_⟩
  rintro ⟨app, built, _⟩
  rw [refused] at built
  cases built

end App

end BucketPlan
