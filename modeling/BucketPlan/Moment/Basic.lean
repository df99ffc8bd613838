import BucketPlan.Date.Basic

/-!
A moment is a second of the representable years with a number of nanoseconds.
Read on the clock of UTC it is an instant, read on the wall clock of a zone it is
a local time. Nanoseconds from 10⁹ on stand for a leap second: they belong to
the second `:59` of a minute and are later than all of it.
-/

namespace BucketPlan

/-- The first second of -262143-01-01, counted from 1970-01-01T00:00:00. -/
def firstSecond : Int := -8334601228800

/-- The last second of 262142-12-31. -/
def lastSecond : Int := 8210266876799

theorem firstSecond_eq : firstSecond = firstDay * 86400 := by decide

theorem lastSecond_eq : lastSecond = lastDay * 86400 + 86399 := by decide

/-- A point on a clock, to the nanosecond. -/
@[ext] structure Moment where
  /-- Seconds since 1970-01-01T00:00:00 on the same clock. -/
  seconds : Int
  nanos : Nat
  first_le : firstSecond ≤ seconds
  le_last : seconds ≤ lastSecond
  nanos_lt : nanos < 2000000000
  /-- Leap seconds stand at `:59`, where texts and timestamps put them. One at another second, which is
      made only by setting the nanoseconds of a time, is left out. -/
  leap : 1000000000 ≤ nanos → seconds % 60 = 59
deriving DecidableEq

/-- A moment of UTC. -/
abbrev Instant := Moment

/-- A moment as the wall clock of some zone shows it. -/
abbrev WallTime := Moment

namespace Moment

/-! ## Order -/

/-- Moments are ordered by their seconds, then by their nanoseconds. -/
def Before (a b : Moment) : Prop :=
  a.seconds < b.seconds ∨ (a.seconds = b.seconds ∧ a.nanos < b.nanos)

instance : LT Moment := ⟨Before⟩

instance : LE Moment := ⟨fun a b => ¬ b < a⟩

instance (a b : Moment) : Decidable (a < b) := inferInstanceAs (Decidable (_ ∨ _))

instance (a b : Moment) : Decidable (a ≤ b) := inferInstanceAs (Decidable (¬ _))

/-- The later of two moments. -/
def latest (a b : Moment) : Moment := if a < b then b else a

theorem lt_def {a b : Moment} :
    a < b ↔ a.seconds < b.seconds ∨ (a.seconds = b.seconds ∧ a.nanos < b.nanos) := Iff.rfl

theorem le_def {a b : Moment} : a ≤ b ↔ ¬ b < a := Iff.rfl

theorem ext_parts {a b : Moment} (hs : a.seconds = b.seconds) (hn : a.nanos = b.nanos) : a = b :=
  Moment.ext hs hn

/-! ## Building moments -/

/-- The moment with these seconds and nanoseconds, when it is representable. -/
def ofParts? (seconds : Int) (nanos : Nat) : Option Moment :=
  if h : (firstSecond ≤ seconds ∧ seconds ≤ lastSecond) ∧
      nanos < 2000000000 ∧ (1000000000 ≤ nanos → seconds % 60 = 59) then
    some ⟨seconds, nanos, h.1.1, h.1.2, h.2.1, h.2.2⟩
  else none

/-- The moment at a whole second, when it is representable. -/
def ofSeconds? (seconds : Int) : Option Moment := ofParts? seconds 0

/-- The start of a date. -/
def midnight (d : Date) : Moment where
  seconds := d.day * 86400
  nanos := 0
  first_le := by have := d.first_le; unfold firstSecond; unfold firstDay at this; omega
  le_last := by have := d.le_last; unfold lastSecond; unfold lastDay at this; omega
  nanos_lt := by decide
  leap := by intro h; exact absurd h (by decide)

/-- The date on which a moment lies. -/
def date (m : Moment) : Date where
  day := m.seconds / 86400
  first_le := by have := m.first_le; unfold firstDay; unfold firstSecond at this; omega
  le_last := by have := m.le_last; unfold lastDay; unfold lastSecond at this; omega

/-- The whole second that a moment lies in; a leap second lies in `:59`. -/
def truncate (m : Moment) : Moment := { m with nanos := 0, nanos_lt := by decide, leap := by simp }

/-- Seconds since the start of the date. -/
def secondOfDay (m : Moment) : Nat := (m.seconds % 86400).toNat

/-- The moment lies in a leap second. -/
def InLeapSecond (m : Moment) : Prop := 1000000000 ≤ m.nanos

instance (m : Moment) : Decidable m.InLeapSecond := inferInstanceAs (Decidable (_ ≤ _))

theorem ofParts?_eq_some_iff {s : Int} {n : Nat} {m : Moment} :
    ofParts? s n = some m ↔ m.seconds = s ∧ m.nanos = n := by
  unfold ofParts?
  constructor
  · intro h
    split at h
    · cases h; exact ⟨rfl, rfl⟩
    · cases h
  · rintro ⟨rfl, rfl⟩
    rw [dif_pos ⟨⟨m.first_le, m.le_last⟩, m.nanos_lt, m.leap⟩]

theorem ofSeconds?_eq_some_iff {s : Int} {m : Moment} :
    ofSeconds? s = some m ↔ m.seconds = s ∧ m.nanos = 0 := ofParts?_eq_some_iff

/-! ## Moving by whole seconds -/

/-- The moment `d` seconds later. From within a leap second a positive move
    counts from the second `:59`, a negative one from the second after it, and
    a move by nothing stays. -/
def addSeconds? (m : Moment) (d : Int) : Option Moment :=
  if d = 0 then some m
  else if m.nanos < 1000000000 then ofParts? (m.seconds + d) m.nanos
  else if 0 < d then ofParts? (m.seconds + d) (m.nanos - 1000000000)
  else ofParts? (m.seconds + 1 + d) (m.nanos - 1000000000)

/-- The same wall-clock text on a clock that is `d` seconds ahead: seconds move
    and nanoseconds stay, so a leap second is kept. -/
def relabel? (m : Moment) (d : Int) : Option Moment := ofParts? (m.seconds + d) m.nanos

/-- Outside leap seconds a move changes the seconds alone. -/
theorem addSeconds?_eq_some_iff {m n : Moment} {d : Int} (h : m.nanos < 1000000000) :
    m.addSeconds? d = some n ↔ n.seconds = m.seconds + d ∧ n.nanos = m.nanos := by
  unfold addSeconds?
  by_cases hd : d = 0
  · subst hd
    simp only [if_true, Option.some.injEq, Int.add_zero]
    constructor
    · rintro rfl; exact ⟨rfl, rfl⟩
    · rintro ⟨hs, hn⟩; exact ext_parts hs.symm hn.symm
  · rw [if_neg hd, if_pos h, ofParts?_eq_some_iff]

/-! ## Differences -/

/-- Nanoseconds from `b` to `a`: whole days, then the difference of the times of
    day, where a leap second counts when it lies strictly between the two
    seconds of the day. -/
def nanosSince (a b : Moment) : Int :=
  let days := a.date.day - b.date.day
  let leap : Int :=
    if b.secondOfDay < a.secondOfDay ∧ b.InLeapSecond then 1
    else if a.secondOfDay < b.secondOfDay ∧ a.InLeapSecond then -1
    else 0
  (days * 86400 + ((a.secondOfDay : Int) - b.secondOfDay) + leap) * 1000000000 + (a.nanos - b.nanos)

/-- Whole seconds from `b` to `a`, rounded toward zero. -/
def secondsSince (a b : Moment) : Int := (a.nanosSince b).tdiv 1000000000

end Moment

end BucketPlan
