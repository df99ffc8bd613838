import BucketPlan.Moment.Text
import BucketPlan.Proofs.Date.Months
import BucketPlan.Proofs.Text.Digits

namespace BucketPlan

theorem Date.ofCivil?_near {c : Civil} {d : Date} (run : Date.ofCivil? c = some d) (first : 0 ≤ c.year)
    (last : c.year ≤ 9999) : -719528 ≤ d.day ∧ d.day ≤ 2932896 := by
  unfold ofCivil? at run
  split at run
  · next valid =>
    obtain ⟨fromOne, toTwelve, one, length⟩ := valid
    have long := (daysInMonth_bounds c.year c.month).2
    have low : monthStart 0 ≤ monthStart c.monthIndex := monthStart_le (by unfold Civil.monthIndex; omega)
    have high : monthStart c.monthIndex ≤ monthStart 119999 := monthStart_le (by unfold Civil.monthIndex; omega)
    have zero : monthStart 0 = -719528 := by decide
    have december : monthStart 119999 = 2932866 := by decide
    rw [ofDay?_eq_some_iff.1 run, Civil.dayNumber_eq c ⟨fromOne, toTwelve⟩]
    omega
  · cases run

namespace Moment

theorem ofClock?_near {d : Date} {hour minute second nanos : Nat} {m : Moment}
    (run : ofClock? d hour minute second nanos = some m) :
    86400 * d.day ≤ m.seconds ∧ m.seconds < 86400 * d.day + 86400 := by
  unfold ofClock? at run
  split at run
  · split at run
    · have seconds := (ofParts?_eq_some_iff.1 run).1
      omega
    · have seconds := (ofParts?_eq_some_iff.1 run).1
      omega
  · cases run

theorem offset?_near {join : List Char → Option (List Char)} {cs rest : List Char} {offset : Int}
    (run : offset? join cs = some (offset, rest)) : -86400 < offset ∧ offset < 86400 := by
  unfold offset? at run
  split at run
  · cases run
    decide
  · cases run
    decide
  · simp only [Option.bind_eq_bind, Option.bind_eq_some_iff, Option.pure_def, Option.some.injEq, Prod.mk.injEq] at run
    obtain ⟨⟨negative, _⟩, _, ⟨hours, _⟩, _, _, _, ⟨minutes, _⟩, _, size, found, rfl, _⟩ := run
    unfold offsetSeconds? at found
    simp only at found
    split at found
    · cases found
      split <;> omega
    · cases found

/-- An instant in the strict grammar lies in the years from 0 to 9999, give or take a day. -/
theorem readIso?_near {cs : List Char} {t : Instant} (run : readIso? cs = some t) :
    -62200000000 ≤ t.seconds ∧ t.seconds ≤ 253500000000 := by
  unfold readIso? at run
  obtain ⟨⟨year, _⟩, readYear, run⟩ := Option.bind_eq_some_iff.1 run
  obtain ⟨_, _, run⟩ := Option.bind_eq_some_iff.1 run
  obtain ⟨⟨month, _⟩, _, run⟩ := Option.bind_eq_some_iff.1 run
  obtain ⟨_, _, run⟩ := Option.bind_eq_some_iff.1 run
  obtain ⟨⟨day, _⟩, _, run⟩ := Option.bind_eq_some_iff.1 run
  obtain ⟨_, _, run⟩ := Option.bind_eq_some_iff.1 run
  obtain ⟨⟨hour, _⟩, _, run⟩ := Option.bind_eq_some_iff.1 run
  obtain ⟨_, _, run⟩ := Option.bind_eq_some_iff.1 run
  obtain ⟨⟨minute, _⟩, _, run⟩ := Option.bind_eq_some_iff.1 run
  obtain ⟨_, _, run⟩ := Option.bind_eq_some_iff.1 run
  obtain ⟨⟨second, _⟩, _, run⟩ := Option.bind_eq_some_iff.1 run
  obtain ⟨⟨nanos, _⟩, _, run⟩ := Option.bind_eq_some_iff.1 run
  obtain ⟨⟨offset, _⟩, readOffset, run⟩ := Option.bind_eq_some_iff.1 run
  obtain ⟨_, _, run⟩ := Option.bind_eq_some_iff.1 run
  obtain ⟨date, named, run⟩ := Option.bind_eq_some_iff.1 run
  obtain ⟨wall, clock, shifted⟩ := Option.bind_eq_some_iff.1 run
  have small := Numeral.number?_lt readYear
  have nearDate := Date.ofCivil?_near named (by simp) (by simp only; omega)
  have nearWall := ofClock?_near clock
  have nearOffset := offset?_near readOffset
  have seconds := (ofParts?_eq_some_iff.1 shifted).1
  omega

end Moment

end BucketPlan
