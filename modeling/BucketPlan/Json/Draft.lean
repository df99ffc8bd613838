import BucketPlan.Json.Magnitude
import BucketPlan.Json.Value

/-!
What a reader knows of a JSON text that it takes from the front: the values it
has seen, and where the text stops being JSON. A draft is read from every text;
whoever takes a value from it meets its problems in the order of the text, and so
can tell a break in the text from a value of the wrong kind before it.

Strings and numbers are checked only when they are taken: a string whose escapes
or bytes name no text, and a number that is too large for a double, are passed
over where nobody asks for them.
-/

namespace BucketPlan

inductive Draft where
  | null
  | bool (value : Bool)
  /-- A number; none when it is too large for a double. -/
  | number (value : Option JsonNumber)
  /-- A string; none when its bytes or escapes stand for no text. -/
  | string (value : Option String)
  /-- The items, and whether the bracket is closed behind them. -/
  | array (items : List Draft) (closed : Bool)
  /-- Names and values, and whether the brace is closed behind them. A name is none
      when its bytes or escapes stand for no text. -/
  | object (members : List (Option String × Draft)) (closed : Bool)
  /-- Here the text is no JSON. -/
  | cut

/-! ## Values as drafts -/

mutual

/-- A value, seen as a whole. -/
def Json.draft : Json → Draft
  | .null => .null
  | .bool b => .bool b
  | .number n => .number (some n)
  | .string s => .string (some s)
  | .array items => .array (Json.draftItems items) true
  | .object members => .object (Json.draftMembers members) true

def Json.draftItems : List Json → List Draft
  | [] => []
  | item :: items => item.draft :: Json.draftItems items

def Json.draftMembers : List (String × Json) → List (Option String × Draft)
  | [] => []
  | (name, value) :: members => (some name, value.draft) :: Json.draftMembers members

end

mutual

/-- The value of a draft without a break. -/
def Draft.toJson? : Draft → Option Json
  | .null => some .null
  | .bool b => some (.bool b)
  | .number n => n.map .number
  | .string s => s.map .string
  | .array items closed => if closed then (Draft.items? items).map .array else none
  | .object members closed => if closed then (Draft.members? members).map .object else none
  | .cut => none

def Draft.items? : List Draft → Option (List Json)
  | [] => some []
  | item :: items => do return (← item.toJson?) :: (← Draft.items? items)

def Draft.members? : List (Option String × Draft) → Option (List (String × Json))
  | [] => some []
  | (name, value) :: members => do
    return (← name, ← value.toJson?) :: (← Draft.members? members)

end

/-! ## Tokens -/

namespace Draft

def isSpace (b : UInt8) : Bool := b = 0x20 || b = 0x0A || b = 0x0D || b = 0x09

def skipSpace (bs : List UInt8) : List UInt8 := bs.dropWhile isSpace

def isDigit (b : UInt8) : Bool := 0x30 ≤ b && b ≤ 0x39

/-- The text of ASCII bytes. -/
def asciiChars (bs : List UInt8) : List Char := bs.map fun b => Char.ofNat b.toNat

def digitValue (b : UInt8) : Nat := b.toNat - 0x30

/-- Takes one given byte off the front, when it is there. -/
def takeByte? (b : UInt8) : List UInt8 → Option (List UInt8)
  | x :: rest => if x = b then some rest else none
  | [] => none

/-- Reads digits off the front, at least one. -/
def digits? (bs : List UInt8) : Option (List UInt8 × List UInt8) :=
  let ds := bs.takeWhile isDigit
  if ds = [] then none else some (ds, bs.drop ds.length)

/-- Reads the digits before the point: a zero alone, or digits that begin with
    another one. -/
def wholeDigits? (bs : List UInt8) : Option (List UInt8 × List UInt8) := do
  let (ds, rest) ← digits? bs
  if ds.head? = some 0x30 ∧ 1 < ds.length then none else some (ds, rest)

/-- Reads the digits behind a point; none stand for no point. -/
def fractionDigits? (bs : List UInt8) : Option (List UInt8 × List UInt8) :=
  match takeByte? 0x2E bs with
  | some rest => digits? rest
  | none => some ([], bs)

/-- Reads a sign off the front, when one of the given bytes is there. -/
def sign (signs : List UInt8) : List UInt8 → List UInt8 × List UInt8
  | b :: rest => if b ∈ signs then ([b], rest) else ([], b :: rest)
  | [] => ([], [])

/-- Reads an exponent: its bytes, its value, and what follows. No bytes stand for
    no exponent. -/
def exponent? : List UInt8 → Option (List UInt8 × Int × List UInt8)
  | mark :: rest =>
    if mark = 0x65 ∨ mark = 0x45 then do
      let (signs, rest) := sign [0x2B, 0x2D] rest
      let (ds, rest) ← digits? rest
      let size : Int := Magnitude.exponentValue (ds.map digitValue)
      return (mark :: signs ++ ds, if signs = [0x2D] then -size else size, rest)
    else some ([], 0, mark :: rest)
  | [] => some ([], 0, [])

/-- Reads a number off the front; none when it is too large for a double. A zero
    with a minus sign is no integer, nor are more digits than 64 bits hold. -/
def number? (bs : List UInt8) : Option (Option JsonNumber × List UInt8) := do
  let (minus, rest) := sign [0x2D] bs
  let (whole, rest) ← wholeDigits? rest
  let (fraction, rest) ← fractionDigits? rest
  let (mark, exponent, rest) ← exponent? rest
  let size := Magnitude.ofDigits (whole.map digitValue) (fraction.map digitValue) exponent
  let plain := fraction = [] ∧ mark = [] ∧ size.scale = 0
  if plain ∧ minus = [] then return (some (.integer size.significand), rest)
  else if plain ∧ size.significand ≠ 0 then return (some (.integer (-size.significand)), rest)
  else if size.exceedsDouble then return (none, rest)
  else
    let point := if fraction = [] then [] else 0x2E :: fraction
    return (some (.decimal (String.ofList (asciiChars (minus ++ whole ++ point ++ mark)))), rest)

/-- Value of a hexadecimal digit. -/
def hexValue? (b : UInt8) : Option Nat :=
  if isDigit b then some (b.toNat - 0x30)
  else if 0x41 ≤ b && b ≤ 0x46 then some (b.toNat - 0x41 + 10)
  else if 0x61 ≤ b && b ≤ 0x66 then some (b.toNat - 0x61 + 10)
  else none

/-- Value of four hexadecimal digits. -/
def hexUnit? (a b c d : UInt8) : Option Nat := do
  return (← hexValue? a) * 4096 + (← hexValue? b) * 256 + (← hexValue? c) * 16 + (← hexValue? d)

/-- The byte that a backslash and one letter stand for. -/
def shortEscape? (b : UInt8) : Option UInt8 :=
  match b with
  | 0x22 => some 0x22
  | 0x5C => some 0x5C
  | 0x2F => some 0x2F
  | 0x62 => some 0x08
  | 0x66 => some 0x0C
  | 0x6E => some 0x0A
  | 0x72 => some 0x0D
  | 0x74 => some 0x09
  | _ => none

/-- UTF-8 of a code point, in reverse. -/
def codePointReverse (n : Nat) : List UInt8 :=
  (String.singleton (Char.ofNat n)).toUTF8.toList.reverse

def isLeadUnit (n : Nat) : Bool := 0xD800 ≤ n && n < 0xDC00

def isTrailUnit (n : Nat) : Bool := 0xDC00 ≤ n && n < 0xE000

/-- Reads four hexadecimal digits off the front. -/
def unit? : List UInt8 → Option (Nat × List UInt8)
  | a :: b :: c :: d :: rest => (hexUnit? a b c d).map fun n => (n, rest)
  | _ => none

/-- Reads the second half of a character off the front: an escape for a trailing
    unit. -/
def trailUnit? : List UInt8 → Option (Nat × List UInt8)
  | 0x5C :: 0x75 :: rest => (unit? rest).filter fun r => isTrailUnit r.1
  | _ => none

/-- Reads what stands behind a backslash: the bytes it means, in reverse, or none
    when it is half of a character without the other half. -/
def escaped? : List UInt8 → Option (Option (List UInt8) × List UInt8)
  | [] => none
  | 0x75 :: rest =>
    match unit? rest with
    | none => none
    | some (unit, rest) =>
      if isTrailUnit unit then some (none, rest)
      else if isLeadUnit unit then
        match trailUnit? rest with
        | some (trail, rest) =>
          some (some (codePointReverse (0x10000 + (unit - 0xD800) * 1024 + (trail - 0xDC00))), rest)
        | none => some (none, rest)
      else some (some (codePointReverse unit), rest)
  | e :: rest => (shortEscape? e).map fun byte => (some [byte], rest)

theorem unit?_length {bs rest : List UInt8} {n : Nat} (h : unit? bs = some (n, rest)) :
    rest.length < bs.length := by
  unfold unit? at h
  split at h
  · obtain ⟨m, _, e⟩ := Option.map_eq_some_iff.1 h
    cases e
    simp only [List.length_cons]
    omega
  · cases h

theorem trailUnit?_length {bs rest : List UInt8} {n : Nat} (h : trailUnit? bs = some (n, rest)) :
    rest.length < bs.length := by
  unfold trailUnit? at h
  split at h
  · have := unit?_length (Option.filter_eq_some_iff.1 h).1
    simp only [List.length_cons]
    omega
  · cases h

theorem escaped?_length {bs rest : List UInt8} {x : Option (List UInt8)}
    (h : escaped? bs = some (x, rest)) : rest.length < bs.length := by
  unfold escaped? at h
  split at h
  · cases h
  · split at h
    · cases h
    · next hu =>
      have := unit?_length hu
      split at h
      · cases h; simp only [List.length_cons]; omega
      · split at h
        · split at h
          · next ht =>
            have := trailUnit?_length ht
            cases h; simp only [List.length_cons]; omega
          · cases h; simp only [List.length_cons]; omega
        · cases h; simp only [List.length_cons]; omega
  · obtain ⟨m, _, e⟩ := Option.map_eq_some_iff.1 h
    cases e
    simp only [List.length_cons]
    omega

/-- Reads a string behind its opening quote. `seen` holds its bytes so far, in
    reverse, or none once an escape stood for half a character. A control
    character, a broken escape or a missing quote ends the text. -/
def string? (seen : Option (List UInt8)) (bs : List UInt8) : Option (Option String × List UInt8) :=
  match bs with
  | [] => none
  | b :: rest =>
    if b = 0x22 then
      some (seen.bind fun bytes => String.fromUTF8? ⟨bytes.reverse.toArray⟩, rest)
    else if b = 0x5C then
      match _h : escaped? rest with
      | none => none
      | some (bytes, more) => string? (seen.bind fun s => bytes.map (· ++ s)) more
    else if b < 0x20 then none
    else string? (seen.map (b :: ·)) rest
termination_by bs.length
decreasing_by
  · have := escaped?_length ‹_›
    simp only [List.length_cons]
    omega
  · simp

/-- Takes a word off the front. -/
def word? (word : List UInt8) (bs : List UInt8) : Option (List UInt8) :=
  if word.isPrefixOf bs then some (bs.drop word.length) else none

/-! ## Values -/

/-- A word for a value, and the text behind it. -/
def ofWord (word : List UInt8) (value : Draft) (bs : List UInt8) : Draft × Option (List UInt8) :=
  match word? word bs with
  | some rest => (value, some rest)
  | none => (.cut, none)

mutual

/-- Reads a value off the front; the rest is none where the text broke. Of two
    steps one takes a byte, so twice as many steps as there are bytes suffice. -/
def value : Nat → List UInt8 → Draft × Option (List UInt8)
  | 0, _ => (.cut, none)
  | steps + 1, bs =>
    match skipSpace bs with
    | [] => (.cut, none)
    | b :: rest =>
      if b = 0x22 then
        match string? (some []) rest with
        | some (s, rest) => (.string s, some rest)
        | none => (.cut, none)
      else if b = 0x5B then
        match skipSpace rest with
        | 0x5D :: rest => (.array [] true, some rest)
        | rest =>
          let (items, rest) := items steps rest
          (.array items rest.isSome, rest)
      else if b = 0x7B then
        match skipSpace rest with
        | 0x7D :: rest => (.object [] true, some rest)
        | rest =>
          let (members, rest) := members steps rest
          (.object members rest.isSome, rest)
      else if b = 0x6E then ofWord [0x75, 0x6C, 0x6C] .null rest
      else if b = 0x74 then ofWord [0x72, 0x75, 0x65] (.bool true) rest
      else if b = 0x66 then ofWord [0x61, 0x6C, 0x73, 0x65] (.bool false) rest
      else match number? (b :: rest) with
        | some (n, rest) => (.number n, some rest)
        | none => (.cut, none)

/-- Reads the items of an array up to its bracket, at least one. -/
def items : Nat → List UInt8 → List Draft × Option (List UInt8)
  | 0, _ => ([], none)
  | steps + 1, bs =>
    match value steps bs with
    | (item, none) => ([item], none)
    | (item, some rest) =>
      match skipSpace rest with
      | 0x5D :: rest => ([item], some rest)
      | 0x2C :: rest =>
        let (more, rest) := items steps rest
        (item :: more, rest)
      | _ => ([item], none)

/-- Reads the members of an object up to its brace, at least one. Where a name
    should be and no string is, the text breaks. -/
def members : Nat → List UInt8 → List (Option String × Draft) × Option (List UInt8)
  | 0, _ => ([], none)
  | steps + 1, bs =>
    match takeByte? 0x22 (skipSpace bs) with
    | none => ([], none)
    | some rest =>
      match string? (some []) rest with
      | none => ([], none)
      | some (name, rest) =>
        match skipSpace rest with
        | 0x3A :: rest =>
          match value steps rest with
          | (value, none) => ([(name, value)], none)
          | (value, some rest) =>
            match skipSpace rest with
            | 0x7D :: rest => ([(name, value)], some rest)
            | 0x2C :: rest =>
              let (more, rest) := members steps rest
              ((name, value) :: more, rest)
            | _ => ([(name, value)], none)
        | _ => ([(name, .cut)], none)

end

/-- A text as a draft, and whether nothing but blanks stands behind the value. -/
structure Reading where
  draft : Draft
  complete : Bool

/-- Reads a JSON text. -/
def read (bs : List UInt8) : Reading :=
  let (draft, rest) := value (2 * bs.length + 2) bs
  ⟨draft, match rest with
    | some rest => (skipSpace rest).isEmpty
    | none => false⟩

end Draft

/-- The value of a text that is JSON from its beginning to its end. -/
def Json.parse? (text : String) : Option Json :=
  let reading := Draft.read text.toUTF8.toList
  if reading.complete then reading.draft.toJson? else none

end BucketPlan
