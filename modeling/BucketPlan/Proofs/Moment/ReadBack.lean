import BucketPlan.Moment.Text
import BucketPlan.Proofs.Date.Written

/-!
Printer and readers meet at the parts of a moment: its date, the numbers of its clock and
its fraction. Each part is read back (`ofClock?_clock`, `fraction?_fractionChars`), so in the
relaxed grammar every instant is read as it was written, leap seconds, fractions and signed
years included (`readRelaxed?_isoChars`). The strict grammar has no signs, and reads back the
instants of the years that take four digits (`readIso?_isoChars`).
-/

namespace BucketPlan.Moment

/-! ## Parts -/

/-- What the second hand shows; in a leap second it goes on to 60. -/
def shownSecond (m : Moment) : Nat := m.secondOfDay % 60 + m.nanos / 1000000000

theorem clock_small (m : Moment) :
    m.secondOfDay / 3600 < 24 ∧ m.secondOfDay / 60 % 60 < 60 ∧ m.shownSecond ≤ 60 := by
  have bound := m.nanos_lt
  have leap := m.leap
  have second : m.secondOfDay = (m.seconds % 86400).toNat := rfl
  unfold shownSecond
  omega

/-- A moment is the one that its date, its clock and its fraction name. -/
theorem ofClock?_clock (m : Moment) :
    ofClock? m.date (m.secondOfDay / 3600) (m.secondOfDay / 60 % 60) m.shownSecond (m.nanos % 1000000000) = some m := by
  have small := m.clock_small
  have bound := m.nanos_lt
  have leap := m.leap
  have second : m.secondOfDay = (m.seconds % 86400).toNat := rfl
  have day : m.date.day = m.seconds / 86400 := rfl
  rw [ofClock?, if_pos small]
  unfold shownSecond
  split_ifs with sixty
  · exact ofParts?_eq_some_iff.2 ⟨by omega, by omega⟩
  · exact ofParts?_eq_some_iff.2 ⟨by omega, by omega⟩

theorem atOffset?_zero (m : Moment) : m.atOffset? 0 = some m := by
  rw [atOffset?, relabel?, ofParts?_eq_some_iff]
  omega

/-! ## Fractions -/

theorem fraction?_padded {width n : Nat} (positive : 0 < width) (short : width ≤ 9) (fits : n < 10 ^ width)
    (rest : List Char) :
    fraction? ('.' :: (Numeral.padded width n ++ 'Z' :: rest)) = some (n * 10 ^ (9 - width), 'Z' :: rest) := by
  have length := Numeral.length_padded positive fits
  have stops : ∀ c ∈ ('Z' :: rest).head?, c.isDigit = false := by
    rintro c ⟨⟩
    rfl
  have run : Numeral.digits? 1 (Numeral.padded width n ++ 'Z' :: rest).length (Numeral.padded width n ++ 'Z' :: rest) =
      some (Numeral.padded width n, 'Z' :: rest) :=
    Numeral.digits?_append (fun _ member => Numeral.isDigit_of_mem_padded member) (by omega)
      (by simp only [List.length_append, List.length_cons]; omega) (.inr stops)
  have kept : (Numeral.padded width n).take 9 = Numeral.padded width n := List.take_of_length_le (by omega)
  simp only [fraction?, run, Option.map_some, fractionNanos, kept, Numeral.value_padded, length]
  rfl

/-- The fraction of a moment is read back, in three, six or nine digits, and when there is none. -/
theorem fraction?_fractionChars (m : Moment) (rest : List Char) :
    fraction? (m.fractionChars ++ 'Z' :: rest) = some (m.nanos % 1000000000, 'Z' :: rest) := by
  have size := Nat.mod_lt m.nanos (show 0 < 1000000000 by decide)
  unfold fractionChars
  simp only
  split_ifs with none three six
  · rw [none]
    rfl
  · rw [List.cons_append, fraction?_padded (by decide) (by decide) (by omega)]
    simp only [Nat.reduceSub, Nat.reducePow, Option.some.injEq, Prod.mk.injEq, and_true]
    omega
  · rw [List.cons_append, fraction?_padded (by decide) (by decide) (by omega)]
    simp only [Nat.reduceSub, Nat.reducePow, Option.some.injEq, Prod.mk.injEq, and_true]
    omega
  · rw [List.cons_append, fraction?_padded (by decide) (by decide) (by omega)]
    simp only [Nat.sub_self, Nat.pow_zero, Nat.mul_one]

/-- To the second nothing of a whole second is left out. -/
theorem isoSecondsChars_of_whole {t : Instant} (whole : t.nanos = 0) : t.isoSecondsChars = t.isoChars := by
  have none : t.fractionChars = [] := by
    rw [fractionChars, whole]
    rfl
  rw [isoChars, localChars, none, List.append_nil, isoSecondsChars, List.append_assoc, List.cons_append]

/-! ## The relaxed grammar -/

theorem relaxedClock?_timeChars (m : Moment) (rest : List Char) :
    relaxedClock? (m.timeChars ++ (m.fractionChars ++ 'Z' :: rest)) =
      some ((m.secondOfDay / 3600, m.secondOfDay / 60 % 60, m.shownSecond, m.nanos % 1000000000), 'Z' :: rest) := by
  obtain ⟨hour, minute, second⟩ := m.clock_small
  have still : ∀ cs, Blank.trimStart (':' :: cs) = ':' :: cs := fun _ => Blank.trimStart_of_head (by decide)
  have seconds : m.secondOfDay % 60 + m.nanos / 1000000000 = m.shownSecond := rfl
  have hours := fun cs => shortNumber?_padded (show m.secondOfDay / 3600 < 100 by omega) cs
  have minutes := fun cs => shortNumber?_padded (show m.secondOfDay / 60 % 60 < 100 by omega) cs
  have last := fun cs => shortNumber?_padded (show m.shownSecond < 100 by omega) cs
  simp only [relaxedClock?, timeChars, clockChars, seconds, List.append_assoc, List.cons_append, hours, minutes, last,
    still, expect?, if_true, Option.bind_eq_bind, Option.bind_some, fraction?_fractionChars]
  rfl

/-- In the relaxed grammar every instant is read as it was written. -/
theorem readRelaxed?_isoChars (t : Instant) : readRelaxed? t.isoChars = some t := by
  obtain ⟨month, day⟩ := t.date.civil_small
  have still : ∀ cs, Blank.trimStart ('-' :: cs) = '-' :: cs := fun _ => Blank.trimStart_of_head (by decide)
  have dates := Civil.read_chars_append still month day
  have zone : relaxedOffset? (Blank.trimStart ['Z']) = some (0, []) := by decide
  have chars : t.isoChars = t.date.civil.chars ++ 'T' :: (t.timeChars ++ (t.fractionChars ++ ['Z'])) := by
    simp only [isoChars, localChars, Date.chars, List.append_assoc, List.cons_append]
  rw [chars]
  refine Option.bind_eq_some_iff.2 ⟨_, dates _, ?_⟩
  refine Option.bind_eq_some_iff.2 ⟨_, rfl, ?_⟩
  refine Option.bind_eq_some_iff.2 ⟨_, t.relaxedClock?_timeChars [], ?_⟩
  refine Option.bind_eq_some_iff.2 ⟨_, zone, ?_⟩
  refine Option.bind_eq_some_iff.2 ⟨(), rfl, ?_⟩
  refine Option.bind_eq_some_iff.2 ⟨_, t.date.ofCivil?_civil, ?_⟩
  refine Option.bind_eq_some_iff.2 ⟨_, t.ofClock?_clock, ?_⟩
  exact t.atOffset?_zero

/-! ## The strict grammar -/

/-- The year takes four digits, and no sign. -/
def FourDigitYear (t : Instant) : Prop := 0 ≤ t.date.civil.year ∧ t.date.civil.year ≤ 9999

instance (t : Instant) : Decidable t.FourDigitYear := inferInstanceAs (Decidable (_ ∧ _))

theorem yearChars_fourDigits {y : Int} (first : 0 ≤ y) (last : y ≤ 9999) : yearChars y = Numeral.padded 4 y.toNat := by
  have size : y.natAbs = y.toNat := by omega
  rw [yearChars, if_neg (Int.not_lt.2 first), if_pos last, size]

/-- In the strict grammar an instant is read as it was written, when its year takes four digits. -/
theorem readIso?_isoChars {t : Instant} (four : t.FourDigitYear) : readIso? t.isoChars = some t := by
  obtain ⟨first, last⟩ := four
  obtain ⟨month, day⟩ := t.date.civil_small
  obtain ⟨hour, minute, second⟩ := t.clock_small
  have seconds : t.secondOfDay % 60 + t.nanos / 1000000000 = t.shownSecond := rfl
  have years := fun cs => Numeral.number?_full 4 (by decide) (show t.date.civil.year.toNat < 10 ^ 4 by omega) cs
  have months := fun cs => Numeral.number?_full 2 (by decide) month cs
  have days := fun cs => Numeral.number?_full 2 (by decide) day cs
  have hours := fun cs => Numeral.number?_full 2 (by decide) (show t.secondOfDay / 3600 < 10 ^ 2 by omega) cs
  have minutes := fun cs => Numeral.number?_full 2 (by decide) (show t.secondOfDay / 60 % 60 < 10 ^ 2 by omega) cs
  have lasts := fun cs => Numeral.number?_full 2 (by decide) (show t.shownSecond < 10 ^ 2 by omega) cs
  have chars : t.isoChars = Numeral.padded 4 t.date.civil.year.toNat ++ '-' ::
      (Numeral.padded 2 t.date.civil.month ++ '-' :: (Numeral.padded 2 t.date.civil.day ++ 'T' ::
        (Numeral.padded 2 (t.secondOfDay / 3600) ++ ':' :: (Numeral.padded 2 (t.secondOfDay / 60 % 60) ++ ':' ::
          (Numeral.padded 2 t.shownSecond ++ (t.fractionChars ++ ['Z'])))))) := by
    simp only [isoChars, localChars, Date.chars, Civil.chars, Civil.monthChars, timeChars, clockChars, seconds,
      yearChars_fourDigits first last, List.append_assoc, List.cons_append]
  have year : ((t.date.civil.year.toNat : Nat) : Int) = t.date.civil.year := Int.toNat_of_nonneg first
  have named : Date.ofCivil? ⟨t.date.civil.year.toNat, t.date.civil.month, t.date.civil.day⟩ = some t.date := by
    rw [year]
    exact t.date.ofCivil?_civil
  rw [chars]
  -- One step of the reader for each part of the text.
  refine Option.bind_eq_some_iff.2 ⟨_, years _, ?_⟩
  refine Option.bind_eq_some_iff.2 ⟨_, rfl, ?_⟩
  refine Option.bind_eq_some_iff.2 ⟨_, months _, ?_⟩
  refine Option.bind_eq_some_iff.2 ⟨_, rfl, ?_⟩
  refine Option.bind_eq_some_iff.2 ⟨_, days _, ?_⟩
  refine Option.bind_eq_some_iff.2 ⟨_, rfl, ?_⟩
  refine Option.bind_eq_some_iff.2 ⟨_, hours _, ?_⟩
  refine Option.bind_eq_some_iff.2 ⟨_, rfl, ?_⟩
  refine Option.bind_eq_some_iff.2 ⟨_, minutes _, ?_⟩
  refine Option.bind_eq_some_iff.2 ⟨_, rfl, ?_⟩
  refine Option.bind_eq_some_iff.2 ⟨_, lasts _, ?_⟩
  refine Option.bind_eq_some_iff.2 ⟨_, t.fraction?_fractionChars [], ?_⟩
  refine Option.bind_eq_some_iff.2 ⟨(0, []), rfl, ?_⟩
  refine Option.bind_eq_some_iff.2 ⟨(), rfl, ?_⟩
  refine Option.bind_eq_some_iff.2 ⟨_, named, ?_⟩
  refine Option.bind_eq_some_iff.2 ⟨_, t.ofClock?_clock, ?_⟩
  exact t.atOffset?_zero

end BucketPlan.Moment
