import BucketPlan.Proofs.Moment.ReadBack
import BucketPlan.Service.Bounds
import BucketPlan.Zone.FixedRule

/-!
An end of a selection is written as a plain date or as an instant, and the date is tried first.
No text is both: after the digits that the two grammars share a date ends, while an instant goes
on with its clock (`Date.read?_eq_none`). So a date stands for its day (`readBound_text`), an
instant for itself (`readBound_of_iso`), and what a response writes is read back
(`readBound_readsBack`).
-/

namespace BucketPlan

/-! ## The two grammars -/

theorem signedYear?_of_full {cs rest : List Char} {n : Nat} (run : Numeral.number? 4 4 cs = some (n, rest)) :
    signedYear? cs = some ((n : Int), rest) := by
  obtain ⟨ds, rfl, rfl, digits, low, high⟩ := Numeral.number?_eq_some run
  have read : Numeral.number? 1 4 (ds ++ rest) = some (Numeral.value ds, rest) :=
    Numeral.number?_append digits (by omega) high (.inl (by omega))
  cases ds with
  | nil => simp at low
  | cons c ds =>
    rw [List.cons_append] at read ⊢
    rw [signedYear?_of_digit (digits c List.mem_cons_self), read, Option.map_some]

theorem shortNumber?_of_full {cs rest : List Char} {n : Nat} (run : Numeral.number? 2 2 cs = some (n, rest)) :
    shortNumber? cs = some (n, rest) := by
  obtain ⟨ds, rfl, rfl, digits, low, high⟩ := Numeral.number?_eq_some run
  have read : Numeral.number? 1 2 (ds ++ rest) = some (Numeral.value ds, rest) :=
    Numeral.number?_append digits (by omega) high (.inl (by omega))
  cases ds with
  | nil => simp at low
  | cons c ds =>
    rw [List.cons_append] at read ⊢
    rw [shortNumber?, Blank.trimStart_of_head (Blank.isBlank_of_isDigit (digits c List.mem_cons_self)), read]

/-- What the strict grammar reads is no plain date: behind its date the clock follows. -/
theorem Date.read?_eq_none {cs : List Char} {t : Instant} (run : Moment.readIso? cs = some t) :
    Date.read? cs = none := by
  unfold Moment.readIso? at run
  obtain ⟨⟨year, behindYear⟩, readYear, run⟩ := Option.bind_eq_some_iff.1 run
  obtain ⟨fromMonth, first, run⟩ := Option.bind_eq_some_iff.1 run
  obtain ⟨⟨month, behindMonth⟩, readMonth, run⟩ := Option.bind_eq_some_iff.1 run
  obtain ⟨fromDay, second, run⟩ := Option.bind_eq_some_iff.1 run
  obtain ⟨⟨day, behindDay⟩, readDay, run⟩ := Option.bind_eq_some_iff.1 run
  obtain ⟨fromClock, join, _⟩ := Option.bind_eq_some_iff.1 run
  have date : civil? id cs = some (⟨year, month, day⟩, behindDay) := by
    simp only [civil?, signedYear?_of_full readYear, id_eq, first, shortNumber?_of_full readMonth, second,
      shortNumber?_of_full readDay, Option.bind_eq_bind, Option.bind_some]
    rfl
  rw [Date.read?, date]
  cases behindDay with
  | nil => cases join
  | cons c rest => rfl

/-! ## What a response writes -/

namespace Moment

theorem trim_isoSecondsChars (t : Instant) : Blank.trim t.isoSecondsChars = t.isoSecondsChars := by
  apply Blank.trim_of_none
  intro c member
  simp only [isoSecondsChars, timeChars, clockChars, List.append_assoc, List.cons_append, List.mem_append,
    List.mem_cons, List.not_mem_nil, or_false] at member
  rcases member with member | rfl | member | rfl | member | rfl | member | rfl
  · exact Date.isBlank_of_mem_chars member
  · decide
  · exact Numeral.isBlank_of_mem_padded member
  · decide
  · exact Numeral.isBlank_of_mem_padded member
  · decide
  · exact Numeral.isBlank_of_mem_padded member
  · decide

end Moment

namespace Calendar

variable {cal : Calendar}

/-- A date that was written stands for its day. -/
theorem readBound_text (field : DateField) (bound : Bound) (d : Date) :
    cal.readBound field bound d.text = Overflow.lift (bound.ofDate cal d) := by
  have chars : d.text.toList = d.chars := String.toList_ofList
  rw [readBound, chars, d.trim_chars, d.read?_chars]

/-- An instant stands for itself, whatever end of a selection it is. -/
theorem readBound_of_iso (field : DateField) (bound : Bound) {raw : String} {t : Instant}
    (run : Moment.readIso? (Blank.trim raw.toList) = some t) : cal.readBound field bound raw = .ok t := by
  simp only [readBound, Date.read?_eq_none run, run]

/-- The ends of a selection are read as they are written: an instant to the second in a year of
    four digits, with any blanks around it, gives that instant, and a date gives the first instant
    of its day as a start and the first one after it as an end. No text is both a date and an
    instant, so that dates are tried first does not change what an instant stands for. -/
theorem readBound_readsBack (cal : Calendar) (field : DateField) :
    (∀ (bound : Bound) (t : Instant) (before after : List Char), t.nanos = 0 → t.FourDigitYear →
      (∀ c ∈ before, Blank.isBlank c = true) → (∀ c ∈ after, Blank.isBlank c = true) →
      cal.readBound field bound (String.ofList before ++ t.isoSecondsText ++ String.ofList after) = .ok t) ∧
    (∀ (d : Date) (opens closes : Instant), cal.dayStart d = .ok opens → cal.dayEnd d = .ok closes →
      cal.readBound field .start d.text = .ok opens ∧ cal.readBound field .stop d.text = .ok closes) ∧
    (∀ cs, Date.read? cs = none ∨ Moment.readIso? cs = none) ∧
    ∀ (bound : Bound) (raw : String) (t : Instant), Moment.readIso? (Blank.trim raw.toList) = some t →
      cal.readBound field bound raw = .ok t := by
  refine ⟨?_, ?_, ?_, fun bound raw t run => readBound_of_iso field bound run⟩
  · intro bound t before after whole four blankBefore blankAfter
    apply readBound_of_iso
    have chars : (String.ofList before ++ t.isoSecondsText ++ String.ofList after).toList =
        before ++ t.isoSecondsChars ++ after := by
      simp only [String.toList_append, String.toList_ofList, Moment.isoSecondsText]
    rw [chars, Blank.trim_surrounded blankBefore blankAfter, t.trim_isoSecondsChars,
      Moment.isoSecondsChars_of_whole whole, Moment.readIso?_isoChars four]
  · intro d opens closes start stop
    rw [readBound_text, readBound_text]
    exact ⟨Overflow.lift_eq_ok_iff.2 start, Overflow.lift_eq_ok_iff.2 stop⟩
  · intro cs
    cases run : Moment.readIso? cs with
    | none => exact .inr rfl
    | some t => exact .inl (Date.read?_eq_none run)

/-- A clock twelve hours and three quarters ahead of UTC. -/
def aheadOfUtc : Calendar := ⟨FixedRule.zone ⟨"Ahead", ⟨45900, by decide, by decide⟩, none⟩, .monday⟩

/-- The first second of the year zero. -/
def yearZero : Instant := (Moment.ofSeconds? (-62167219200)).get (by decide)

/-- A day in a year with a sign. -/
def idesOfMarch : Date := (Date.ofCivil? ⟨-43, 3, 15⟩).get (by decide)

theorem aheadOfUtc_readsBack :
    aheadOfUtc.readBound .startDate .stop (String.ofList ['\u3000', '\t'] ++ yearZero.isoSecondsText ++
        String.ofList ['\n']) = .ok yearZero ∧
      ∃ opens closes, aheadOfUtc.dayStart idesOfMarch = .ok opens ∧ aheadOfUtc.dayEnd idesOfMarch = .ok closes ∧
        aheadOfUtc.readBound .startDate .start idesOfMarch.text = .ok opens ∧
        aheadOfUtc.readBound .startDate .stop idesOfMarch.text = .ok closes := by
  obtain ⟨instants, dates, _⟩ := readBound_readsBack aheadOfUtc .startDate
  have before : ∀ c ∈ ['\u3000', '\t'], Blank.isBlank c = true := List.all_eq_true.1 (by decide)
  have after : ∀ c ∈ ['\n'], Blank.isBlank c = true := List.all_eq_true.1 (by decide)
  refine ⟨instants .stop yearZero ['\u3000', '\t'] ['\n'] rfl (by decide) before after, ?_⟩
  have start : aheadOfUtc.dayStart idesOfMarch = .ok ((Moment.ofSeconds? (-63517869900)).get (by decide)) := rfl
  have stop : aheadOfUtc.dayEnd idesOfMarch = .ok ((Moment.ofSeconds? (-63517783500)).get (by decide)) := rfl
  exact ⟨_, _, start, stop, dates idesOfMarch _ _ start stop⟩

end Calendar

end BucketPlan
