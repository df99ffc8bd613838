import BucketPlan.Date.Basic
import BucketPlan.Text.Blank
import BucketPlan.Text.Numeral

/-!
Dates are written year, month and day, joined by hyphens. Years of four digits
stand alone; others carry a sign. The reader takes more than the printer gives:
blanks before each number, any number of digits after a sign, and months and
days of one digit.
-/

namespace BucketPlan

/-- A year: four digits from 0 to 9999, else a sign and at least four digits. -/
def yearChars (y : Int) : List Char :=
  let digits := Numeral.padded 4 y.natAbs
  if y < 0 then '-' :: digits else if y ≤ 9999 then digits else '+' :: digits

namespace Civil

/-- Year and month. -/
def monthChars (c : Civil) : List Char := yearChars c.year ++ '-' :: Numeral.padded 2 c.month

/-- The written form of a date. -/
def chars (c : Civil) : List Char := c.monthChars ++ '-' :: Numeral.padded 2 c.day

end Civil

namespace Date

/-- The written form of a date. -/
def chars (d : Date) : List Char := d.civil.chars

def text (d : Date) : String := String.ofList d.chars

end Date

/-! ## Reading -/

/-- Takes one given character off the front. -/
def expect? (c : Char) : List Char → Option (List Char)
  | x :: rest => if x = c then some rest else none
  | [] => none

/-- Reads a year after any blanks: with a sign as many digits as there are,
    without one at most four. -/
def signedYear? (cs : List Char) : Option (Int × List Char) :=
  match Blank.trimStart cs with
  | '-' :: rest => (Numeral.longNumber? rest).map fun r => (-(r.1 : Int), r.2)
  | '+' :: rest => (Numeral.longNumber? rest).map fun r => ((r.1 : Int), r.2)
  | rest => (Numeral.number? 1 4 rest).map fun r => ((r.1 : Int), r.2)

/-- Reads a number of one or two digits after any blanks. -/
def shortNumber? (cs : List Char) : Option (Nat × List Char) :=
  Numeral.number? 1 2 (Blank.trimStart cs)

/-- Reads a date off the front; `skip` is applied before each hyphen. -/
def civil? (skip : List Char → List Char) (cs : List Char) : Option (Civil × List Char) := do
  let (year, cs) ← signedYear? cs
  let cs ← expect? '-' (skip cs)
  let (month, cs) ← shortNumber? cs
  let cs ← expect? '-' (skip cs)
  let (day, cs) ← shortNumber? cs
  return (⟨year, month, day⟩, cs)

/-- Reads a text that is one date and nothing else, with its hyphens straight
    after the numbers. -/
def Date.read? (cs : List Char) : Option Date :=
  match civil? id cs with
  | some (c, []) => Date.ofCivil? c
  | _ => none

end BucketPlan
