import BucketPlan.Date.Text
import BucketPlan.Moment.Basic

/-!
A moment is written as its date and the time of day to the second; a leap second
is written as second 60. Fractions take three, six or nine digits, as few as lose
nothing. Instants are read in two grammars: RFC 3339, and a relaxed form of it
that forgives blanks, short numbers and other spellings of the zone.
-/

namespace BucketPlan

namespace Moment

/-! ## Printing -/

/-- Hours and minutes. -/
def clockChars (m : Moment) : List Char :=
  Numeral.padded 2 (m.secondOfDay / 3600) ++ ':' :: Numeral.padded 2 (m.secondOfDay / 60 % 60)

/-- Hours, minutes and seconds; a leap second is second 60. -/
def timeChars (m : Moment) : List Char :=
  m.clockChars ++ ':' :: Numeral.padded 2 (m.secondOfDay % 60 + m.nanos / 1000000000)

/-- The fraction of the second, nothing when there is none. -/
def fractionChars (m : Moment) : List Char :=
  let nanos := m.nanos % 1000000000
  if nanos = 0 then []
  else if nanos % 1000000 = 0 then '.' :: Numeral.padded 3 (nanos / 1000000)
  else if nanos % 1000 = 0 then '.' :: Numeral.padded 6 (nanos / 1000)
  else '.' :: Numeral.padded 9 nanos

/-- Date and time of a local time, joined by a `T`. -/
def localChars (m : Moment) : List Char :=
  m.date.chars ++ 'T' :: m.timeChars ++ m.fractionChars

/-- The RFC 3339 form of an instant. -/
def isoChars (m : Moment) : List Char := m.localChars ++ ['Z']

/-- The RFC 3339 form of an instant, without its fraction. -/
def isoSecondsChars (m : Moment) : List Char := m.date.chars ++ 'T' :: m.timeChars ++ ['Z']

/-- Date and time to the second, joined by a space. -/
def spacedChars (m : Moment) : List Char := m.date.chars ++ ' ' :: m.timeChars

def localText (m : Moment) : String := String.ofList m.localChars

def isoText (m : Moment) : String := String.ofList m.isoChars

def isoSecondsText (m : Moment) : String := String.ofList m.isoSecondsChars

/-- An instant as messages show it. -/
def messageText (m : Moment) : String :=
  String.ofList (m.spacedChars ++ m.fractionChars ++ " UTC".toList)

/-! ## Reading -/

/-- Digits of a fraction as nanoseconds; digits from the tenth on do not count. -/
def fractionNanos (digits : List Char) : Nat :=
  let kept := digits.take 9
  Numeral.value kept * Nat.pow 10 (9 - kept.length)

/-- Reads a point and at least one digit off the front, or nothing. -/
def fraction? : List Char → Option (Nat × List Char)
  | '.' :: rest =>
    (Numeral.digits? 1 rest.length rest).map fun r => (fractionNanos r.1, r.2)
  | cs => some (0, cs)

/-- The moment at a date and a time of day. Second 60 is a leap second, in
    whatever minute it stands. -/
def ofClock? (d : Date) (hour minute second nanos : Nat) : Option Moment :=
  if hour < 24 ∧ minute < 60 ∧ second ≤ 60 then
    if second = 60 then
      ofParts? (d.day * 86400 + (hour * 3600 + minute * 60 + 59 : Nat)) (1000000000 + nanos)
    else ofParts? (d.day * 86400 + (hour * 3600 + minute * 60 + second : Nat)) nanos
  else none

/-- Seconds east of a written offset, when its minutes are below 60 and it is
    shorter than a day. -/
def offsetSeconds? (negative : Bool) (hours minutes : Nat) : Option Int :=
  let size : Int := (hours * 3600 + minutes * 60 : Nat)
  if minutes < 60 ∧ size < 86400 then some (if negative then -size else size) else none

/-- Reads a sign off the front: plus, hyphen or the minus sign of typography. -/
def sign? : List Char → Option (Bool × List Char)
  | '+' :: rest => some (false, rest)
  | '-' :: rest => some (true, rest)
  | '\u2212' :: rest => some (true, rest)
  | _ => none

/-- Reads an offset off the front: `Z`, or a sign, two digits, what `join` takes,
    and two digits. -/
def offset? (join : List Char → Option (List Char)) : List Char → Option (Int × List Char)
  | 'Z' :: rest => some (0, rest)
  | 'z' :: rest => some (0, rest)
  | cs => do
    let (negative, cs) ← sign? cs
    let (hours, cs) ← Numeral.number? 2 2 cs
    let cs ← join cs
    let (minutes, cs) ← Numeral.number? 2 2 cs
    let offset ← offsetSeconds? negative hours minutes
    return (offset, cs)

/-- The instant at which a clock with that offset shows the moment. -/
def atOffset? (m : WallTime) (offset : Int) : Option Instant := m.relabel? (-offset)

/-- Reads the letter or the one space between date and time off the front. -/
def dateTimeJoin? : List Char → Option (List Char)
  | 'T' :: rest => some rest
  | 't' :: rest => some rest
  | ' ' :: rest => some rest
  | _ => none

/-- Reads an RFC 3339 instant: every number has its full width, nothing stands
    between the parts, and nothing follows. -/
def readIso? (cs : List Char) : Option Instant := do
  let (year, cs) ← Numeral.number? 4 4 cs
  let cs ← expect? '-' cs
  let (month, cs) ← Numeral.number? 2 2 cs
  let cs ← expect? '-' cs
  let (day, cs) ← Numeral.number? 2 2 cs
  let cs ← dateTimeJoin? cs
  let (hour, cs) ← Numeral.number? 2 2 cs
  let cs ← expect? ':' cs
  let (minute, cs) ← Numeral.number? 2 2 cs
  let cs ← expect? ':' cs
  let (second, cs) ← Numeral.number? 2 2 cs
  let (nanos, cs) ← fraction? cs
  let (offset, cs) ← offset? (expect? ':') cs
  guard cs.isEmpty
  let date ← Date.ofCivil? ⟨year, month, day⟩
  let wall ← ofClock? date hour minute second nanos
  wall.atOffset? offset

/-- Reads the name UTC in any case off the front, or an offset whose two numbers
    may be joined by any colons and blanks. -/
def relaxedOffset? : List Char → Option (Int × List Char)
  | a :: b :: c :: rest =>
    if [a, b, c].map Char.toLower = ['u', 't', 'c'] then some (0, rest)
    else offset? joinAny (a :: b :: c :: rest)
  | cs => offset? joinAny cs
where
  /-- Colons and blanks in any number. -/
  joinAny (cs : List Char) : Option (List Char) :=
    some (cs.dropWhile fun c => c = ':' || Blank.isBlank c)

/-- Reads a clock time off the front, with blanks allowed before each number and
    colon. -/
def relaxedClock? (cs : List Char) : Option ((Nat × Nat × Nat × Nat) × List Char) := do
  let (hour, cs) ← shortNumber? cs
  let cs ← expect? ':' (Blank.trimStart cs)
  let (minute, cs) ← shortNumber? cs
  let cs ← expect? ':' (Blank.trimStart cs)
  let (second, cs) ← shortNumber? cs
  let (nanos, cs) ← fraction? cs
  return ((hour, minute, second, nanos), cs)

/-- Reads an instant in the relaxed form: signed years, short numbers, blanks
    before every number and joint, around the zone and at the end. -/
def readRelaxed? (cs : List Char) : Option Instant := do
  let (civil, cs) ← civil? Blank.trimStart cs
  let cs ← dateTimeJoin? cs
  let ((hour, minute, second, nanos), cs) ← relaxedClock? cs
  let (offset, cs) ← relaxedOffset? (Blank.trimStart cs)
  guard (Blank.trimStart cs).isEmpty
  let date ← Date.ofCivil? civil
  let wall ← ofClock? date hour minute second nanos
  wall.atOffset? offset

/-- Reads a local time: a date, a join and a clock time, and nothing else. -/
def readLocal? (cs : List Char) : Option WallTime := do
  let (civil, cs) ← civil? id cs
  let cs ← dateTimeJoin? cs
  let ((hour, minute, second, nanos), cs) ← relaxedClock? cs
  guard cs.isEmpty
  let date ← Date.ofCivil? civil
  ofClock? date hour minute second nanos

end Moment

end BucketPlan
