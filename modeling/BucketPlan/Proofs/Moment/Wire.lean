import BucketPlan.Proofs.Moment.ReadBack
import BucketPlan.Query.Site

namespace BucketPlan.Moment

/-! ## What a text determines -/

theorem length_timeChars (m : Moment) : m.timeChars.length = 8 := by
  obtain ⟨hour, minute, second⟩ := m.clock_small
  have hours : (Numeral.padded 2 (m.secondOfDay / 3600)).length = 2 :=
    Numeral.length_padded (by decide) (show _ < 100 by omega)
  have minutes : (Numeral.padded 2 (m.secondOfDay / 60 % 60)).length = 2 :=
    Numeral.length_padded (by decide) (show _ < 100 by omega)
  have seconds : (Numeral.padded 2 m.shownSecond).length = 2 :=
    Numeral.length_padded (by decide) (show _ < 100 by omega)
  have shown : m.secondOfDay % 60 + m.nanos / 1000000000 = m.shownSecond := rfl
  simp only [timeChars, clockChars, shown, List.length_append, List.length_cons, hours, minutes, seconds]

/-- A whole second is all that its text says. -/
theorem wireText_injective {a b : Instant} (wholeA : a.nanos = 0) (wholeB : b.nanos = 0)
    (same : a.wireText = b.wireText) : a = b := by
  have chars : a.date.chars ++ ' ' :: a.timeChars = b.date.chars ++ ' ' :: b.timeChars := String.ofList_injective same
  -- A clock takes eight characters, so dates of whatever length end at the same place.
  obtain ⟨dates, times⟩ := List.append_inj' chars
    (by rw [List.length_cons, List.length_cons, a.length_timeChars, b.length_timeChars])
  have written : a.isoChars = b.isoChars := by
    rw [← isoSecondsChars_of_whole wholeA, ← isoSecondsChars_of_whole wholeB, isoSecondsChars, isoSecondsChars, dates,
      (List.cons.inj times).2]
  have reads := a.readRelaxed?_isoChars
  rw [written, b.readRelaxed?_isoChars] at reads
  exact (Option.some.inj reads).symm

/-! ## Order -/

theorem lt_iff_parts {a b : Instant} (wholeA : a.nanos = 0) (wholeB : b.nanos = 0) :
    a < b ↔ a.date.civil.year < b.date.civil.year ∨ a.date.civil.year = b.date.civil.year ∧
      (a.date.civil.month < b.date.civil.month ∨ a.date.civil.month = b.date.civil.month ∧
        (a.date.civil.day < b.date.civil.day ∨ a.date.civil.day = b.date.civil.day ∧
          (a.secondOfDay / 3600 < b.secondOfDay / 3600 ∨ a.secondOfDay / 3600 = b.secondOfDay / 3600 ∧
            (a.secondOfDay / 60 % 60 < b.secondOfDay / 60 % 60 ∨ a.secondOfDay / 60 % 60 = b.secondOfDay / 60 % 60 ∧
              a.shownSecond < b.shownSecond)))) := by
  have dates : a.seconds / 86400 < b.seconds / 86400 ↔ _ := Civil.ofDay_lt_iff
  have datesBack : b.seconds / 86400 < a.seconds / 86400 ↔ _ := Civil.ofDay_lt_iff
  obtain ⟨fromA, toA, _⟩ := Civil.ofDay_valid (a.seconds / 86400)
  obtain ⟨fromB, toB, _⟩ := Civil.ofDay_valid (b.seconds / 86400)
  simp only [lt_def, date, Date.civil, shownSecond, secondOfDay, wholeA, wholeB]
  unfold Civil.monthIndex at dates datesBack
  omega

/-- In the years of four digits whole seconds are in order as their texts are. -/
theorem wireText_lt_iff {a b : Instant} (wholeA : a.nanos = 0) (wholeB : b.nanos = 0) (fourA : a.FourDigitYear)
    (fourB : b.FourDigitYear) : a.wireText < b.wireText ↔ a < b := by
  obtain ⟨firstA, lastA⟩ := fourA
  obtain ⟨firstB, lastB⟩ := fourB
  obtain ⟨monthA, dayA⟩ := a.date.civil_small
  obtain ⟨monthB, dayB⟩ := b.date.civil_small
  obtain ⟨hourA, minuteA, secondA⟩ := a.clock_small
  obtain ⟨hourB, minuteB, secondB⟩ := b.clock_small
  have shownA : a.secondOfDay % 60 + a.nanos / 1000000000 = a.shownSecond := rfl
  have shownB : b.secondOfDay % 60 + b.nanos / 1000000000 = b.shownSecond := rfl
  have joint : ∀ (c : Char) (xs ys : List Char), c :: xs < c :: ys ↔ xs < ys := by
    intro c xs ys
    simp
  have years := fun xs ys => Numeral.padded_append_lt_iff 4 (by decide)
    (show a.date.civil.year.toNat < 10000 by omega) (show b.date.civil.year.toNat < 10000 by omega) xs ys
  have months := fun xs ys => Numeral.padded_append_lt_iff 2 (by decide) monthA monthB xs ys
  have days := fun xs ys => Numeral.padded_append_lt_iff 2 (by decide) dayA dayB xs ys
  have hours := fun xs ys => Numeral.padded_append_lt_iff 2 (by decide)
    (show a.secondOfDay / 3600 < 100 by omega) (show b.secondOfDay / 3600 < 100 by omega) xs ys
  have minutes := fun xs ys => Numeral.padded_append_lt_iff 2 (by decide)
    (show a.secondOfDay / 60 % 60 < 100 by omega) (show b.secondOfDay / 60 % 60 < 100 by omega) xs ys
  have seconds := Numeral.padded_lt_iff 2 (by decide) (show a.shownSecond < 100 by omega)
    (show b.shownSecond < 100 by omega)
  rw [lt_iff_parts wholeA wholeB, String.lt_iff, wireText, wireText, String.toList_ofList, String.toList_ofList]
  simp only [spacedChars, Date.chars, Civil.chars, Civil.monthChars, timeChars, clockChars, shownA, shownB,
    yearChars_fourDigits firstA lastA, yearChars_fourDigits firstB lastB, List.append_assoc, List.cons_append, years,
    months, days, hours, minutes, seconds, joint]
  omega

end BucketPlan.Moment
