import BucketPlan.Calendar
import BucketPlan.Period.Basic

/-!
A cursor stands before the next bucket of a period and yields the bucket starts
one by one. It ends at the end of the period, and earlier where the calendar has
no later boundary to offer. Main statement: boundaries are whole seconds, so
every step of a cursor uses up a second of its period.
-/

namespace BucketPlan

/-! ## Boundaries are whole seconds -/

namespace Calendar

theorem alignDown_nanos (zone : Zone) (unit passes : Nat) (t : Instant) (h : t.nanos = 0) :
    (alignDown zone unit passes t).nanos = 0 := by
  induction passes generalizing t with
  | zero => exact h
  | succ passes ih =>
    unfold alignDown
    simp only
    split
    · exact h
    · split
      · next earlier he => exact ih earlier (Moment.ofSeconds?_eq_some_iff.1 he).2
      · exact h

theorem clockFloor_nanos (cal : Calendar) (unit : Nat) (t : Instant) :
    (cal.clockFloor unit t).nanos = 0 := alignDown_nanos _ _ _ _ rfl

theorem clockNext?_spec {cal : Calendar} {unit : Nat} {t n : Instant} {tries : List Nat}
    (h : cal.clockNext? unit t tries = some n) : n.nanos = 0 ∧ t < n := by
  induction tries with
  | nil => cases h
  | cons units more ih =>
    unfold clockNext? at h
    split at h
    · cases h
    · split at h
      · next later => cases h; exact ⟨clockFloor_nanos _ _ _, later⟩
      · exact ih h

theorem dayStart_nanos {cal : Calendar} {d : Date} {t : Instant} (h : cal.dayStart d = .ok t) :
    t.nanos = 0 := by
  unfold dayStart Zone.startOfDay Zone.ofLocal at h
  cases ho : cal.zone.offsetFor (.midnight d) with
  | error e => rw [ho] at h; cases h
  | ok o =>
    rw [ho] at h
    have h : (Moment.midnight d).addSeconds? (-o.seconds) = some t := Moment.plus_eq_ok_iff.1 h
    exact ((Moment.addSeconds?_eq_some_iff (m := .midnight d) (show 0 < 1000000000 by decide)).1 h).2

theorem next_nanos {cal : Calendar} {g : Granularity} {t n : Instant}
    (h : cal.next g t = .ok (some n)) : n.nanos = 0 := by
  unfold next at h
  split at h
  · next unit hu => exact (clockNext?_spec (Except.ok.inj h)).1
  · cases hd : cal.dateOf t with
    | error e => rw [hd] at h; cases h
    | ok d =>
      simp only [hd, bind, Except.bind, pure, Except.pure] at h
      split at h
      · cases h
      · next date _ =>
        cases hs : cal.dayStart date with
        | error e => rw [hs] at h; cases h
        | ok s => rw [hs] at h; cases h; exact dayStart_nanos hs

end Calendar

/-! ## Cursors -/

/-- What is left of a walk over the buckets of a period. -/
structure Cursor where
  granularity : Granularity
  /-- The next bucket start, if the calendar has one. -/
  upcoming : Option Instant
  /-- The end of the period. -/
  stop : Instant
deriving DecidableEq

namespace Cursor

/-- A cursor before the first bucket of a period. -/
def ofPeriod (g : Granularity) (p : Period) : Cursor := ⟨g, some p.start, p.stop⟩

/-- The next bucket start before the end, and the cursor behind it. A boundary
    that is not later than the one before ends the walk. -/
def next? (cal : Calendar) (c : Cursor) : Except Overflow (Option (Instant × Cursor)) :=
  match c.upcoming with
  | none => .ok none
  | some current =>
    if current < c.stop then
      match cal.next c.granularity current with
      | .error e => .error e
      | .ok following =>
        .ok (some (current, { c with upcoming := following.filter (current < ·) }))
    else .ok none

/-- Seconds that are left for the walk. -/
def secondsLeft (c : Cursor) : Nat :=
  match c.upcoming with
  | none => 0
  | some current => (c.stop.seconds - current.seconds + 1).toNat + 1

theorem secondsLeft_next {cal : Calendar} {c rest : Cursor} {t : Instant}
    (h : c.next? cal = .ok (some (t, rest))) : rest.secondsLeft < c.secondsLeft := by
  unfold next? at h
  split at h
  · cases h
  · next current hc =>
    split at h
    · next before =>
      split at h
      · cases h
      · next following hn =>
        cases h
        cases following with
        | none => simp [secondsLeft, hc, Option.filter]
        | some n =>
          by_cases later : t < n
          · have whole := Calendar.next_nanos hn
            rw [Moment.lt_def] at later before
            have hs : t.seconds < n.seconds := by omega
            simp only [secondsLeft, hc, Option.filter, Moment.lt_def]
            rw [if_pos (by simp only [decide_eq_true_eq]; exact later)]
            simp only
            omega
          · simp [secondsLeft, hc, Option.filter, later]
    · cases h

/-- The bucket starts that are left, behind those in `seen`, which are in reverse. -/
def collect (cal : Calendar) (c : Cursor) (seen : List Instant) : Except Overflow (List Instant) :=
  match _h : c.next? cal with
  | .error e => .error e
  | .ok none => .ok seen.reverse
  | .ok (some (t, rest)) => rest.collect cal (t :: seen)
termination_by c.secondsLeft
decreasing_by exact secondsLeft_next ‹_›

/-- The bucket starts that are left. -/
def toList (cal : Calendar) (c : Cursor) : Except Overflow (List Instant) := c.collect cal []

/-- At most `count` of the bucket starts that are left, behind those in `seen`,
    which are in reverse, and the cursor behind them. -/
def collectUpTo (cal : Calendar) (c : Cursor) (seen : List Instant) :
    Nat → Except Overflow (List Instant × Cursor)
  | 0 => .ok (seen.reverse, c)
  | count + 1 =>
    match c.next? cal with
    | .error e => .error e
    | .ok none => .ok (seen.reverse, c)
    | .ok (some (t, rest)) => rest.collectUpTo cal (t :: seen) count

/-- At most `count` of the bucket starts that are left, and the cursor behind them. -/
def take (cal : Calendar) (c : Cursor) (count : Nat) : Except Overflow (List Instant × Cursor) :=
  c.collectUpTo cal [] count

end Cursor

end BucketPlan
