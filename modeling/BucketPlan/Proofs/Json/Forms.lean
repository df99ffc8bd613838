import BucketPlan.Json.Forms
import BucketPlan.Proofs.Json.Rendered
import BucketPlan.Proofs.Moment.ReadBack

namespace BucketPlan

/-- Every instant is taken from its text. -/
theorem Moment.decode_draft (t : Instant) : Moment.decode t.toJson.draft = .ok t := by
  have text : t.isoText.toList = t.isoChars := String.toList_ofList
  simp only [Moment.decode, Moment.toJson, Json.draft, Decoder.text, bind, Except.bind, text, readRelaxed?_isoChars,
    Decoder.known]

theorem Decoder.takeMembers_cons {σ : Type} {fields seen : List String} {take : σ → String → Decoder σ} {state next : σ}
    {name : String} {value : Draft} (field : name ∈ fields) (fresh : name ∉ seen)
    (taken : take state name value = .ok next) (more : List (Option String × Draft)) :
    takeMembers fields take seen state ((some name, value) :: more) =
      takeMembers fields take (name :: seen) next more := by
  rw [takeMembers, if_neg (not_not_intro field), if_neg fresh, taken]
  rfl

namespace Period

theorem numberFree (p : Period) : p.toJson.NumberFree := ⟨trivial, trivial, trivial, trivial⟩

/-- Every period is taken from its form. -/
theorem decode_draft (p : Period) : Period.decode p.toJson.draft = .ok p := by
  have start : Partial.take {} "start" p.start.toJson.draft = .ok { start := some p.start } := by
    simp only [Partial.take, Moment.decode_draft, bind, Except.bind]
    rfl
  have stop : Partial.take { start := some p.start } "end" p.stop.toJson.draft =
      .ok { start := some p.start, stop := some p.stop } := by
    simp only [Partial.take, Moment.decode_draft, bind, Except.bind]
    rfl
  have fields : Decoder.record ["start", "end", "timezone"] Partial.take {} p.toJson.draft =
      .ok ⟨some p.start, some p.stop, some p.timezone⟩ := by
    rw [toJson, Json.draft, Json.draftMembers, Json.draftMembers, Decoder.record,
      Decoder.takeMembers_cons (by decide) (by decide) start, Decoder.takeMembers_cons (by decide) (by decide) stop]
    rfl
  rw [decode, fields]
  rfl

end Period

namespace CompareMode

theorem numberFree (mode : CompareMode) : mode.toJson.NumberFree := by
  cases mode with
  | off | previousPeriod | previousYear => exact ⟨trivial, trivial⟩
  | custom start stop => exact ⟨trivial, trivial, trivial, trivial⟩

/-- Every mode is taken from its form. -/
theorem decode_draft (mode : CompareMode) : decode mode.toJson.draft = .ok mode := by
  cases mode with
  | off => rfl
  | previousPeriod => rfl
  | previousYear => rfl
  | custom start stop =>
    have first : Ends.take {} "start" start.toJson.draft = .ok { start := some start } := by
      simp only [Ends.take, Moment.decode_draft, bind, Except.bind]
      rfl
    have second : Ends.take { start := some start } "end" stop.toJson.draft =
        .ok { start := some start, stop := some stop } := by
      simp only [Ends.take, Moment.decode_draft, bind, Except.bind]
      rfl
    have ends : Decoder.record ["start", "end"] Ends.take {}
        (.object [(some "start", start.toJson.draft), (some "end", stop.toJson.draft)] true) =
          .ok { start := some start, stop := some stop } := by
      rw [Decoder.record, Decoder.takeMembers_cons (by decide) (by decide) first,
        Decoder.takeMembers_cons (by decide) (by decide) second]
      rfl
    have tagged : ∀ a b : Draft,
        decode (.object [(some "mode", .string (some "custom")), (some "start", a), (some "end", b)] true) =
          ofTag "custom" (.object [(some "start", a), (some "end", b)] true) := fun _ _ => rfl
    have form : (custom start stop).toJson.draft = .object [(some "mode", .string (some "custom")),
        (some "start", start.toJson.draft), (some "end", stop.toJson.draft)] true := rfl
    rw [form, tagged, ofTag, ends]
    rfl

/-- The ends that a request for the mode gives. -/
def ends : CompareMode → Option Instant × Option Instant
  | custom start stop => (some start, some stop)
  | _ => (none, none)

theorem read_slug (mode : CompareMode) : CompareMode.read (some mode.slug) mode.ends.1 mode.ends.2 = .ok mode := by
  cases mode with
  | off | previousPeriod | previousYear => rfl
  | custom start stop =>
    have trimmed : Blank.trimText "custom" = "custom" := by decide
    simp only [CompareMode.read, slug, ends, Option.map_some, trimmed]

/-- No mode and no period is lost in its JSON form. Decoding the form gives back the mode, or the
    period, from the value and from its text alike, with all fractions, leap seconds and years of
    the ends and whatever the zone is called. With its own ends a mode is also read under the name
    that requests give it, which is that of the form unless there is no comparison. -/
theorem forms_readBack :
    (∀ mode : CompareMode, Json.decode? decode mode.toJson = some mode ∧
      (Json.parse? mode.toJson.render).bind (Json.decode? decode) = some mode) ∧
    (∀ p : Period, Json.decode? Period.decode p.toJson = some p ∧
      (Json.parse? p.toJson.render).bind (Json.decode? Period.decode) = some p) ∧
    (∀ mode : CompareMode, CompareMode.read (some mode.slug) mode.ends.1 mode.ends.2 = .ok mode) ∧
    ∀ mode : CompareMode, mode.slug = mode.tag ↔ mode ≠ off := by
  have modes : ∀ mode : CompareMode, Json.decode? decode mode.toJson = some mode := by
    intro mode
    rw [Json.decode?, decode_draft]
    rfl
  have periods : ∀ p : Period, Json.decode? Period.decode p.toJson = some p := by
    intro p
    rw [Json.decode?, Period.decode_draft]
    rfl
  refine ⟨?_, ?_, read_slug, ?_⟩
  · intro mode
    exact ⟨modes mode, by rw [Json.parse?_render mode.numberFree, Option.bind_some, modes]⟩
  · intro p
    exact ⟨periods p, by rw [Json.parse?_render p.numberFree, Option.bind_some, periods]⟩
  · intro mode
    cases mode <;> simp [slug, tag]

end CompareMode

end BucketPlan
