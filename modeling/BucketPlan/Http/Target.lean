namespace BucketPlan.Target

/-- The characters of a scheme. -/
def isSchemeChar (c : Char) : Bool := c.isAlphanum || c = '+' || c = '-' || c = '.' || c = '~'

/-- The characters that end the path. -/
def endsPath (c : Char) : Bool := c = '?' || c = '#'

/-- What follows the host, when a target begins with a scheme and a host; else
    the whole target. -/
def behindHost (target : List Char) : List Char :=
  match target.dropWhile isSchemeChar with
  | ':' :: '/' :: '/' :: rest => rest.dropWhile fun c => c ≠ '/' && !endsPath c
  | _ => target

/-- The segments of the path; a query or fragment behind it does not count. -/
def segments (target : String) : List String :=
  (((behindHost target.toList).takeWhile fun c => !endsPath c).splitOn '/').map String.ofList

/-- Value of a hexadecimal digit. -/
def hexValue? (b : UInt8) : Option Nat :=
  if 0x30 ≤ b && b ≤ 0x39 then some (b.toNat - 0x30)
  else if 0x41 ≤ b && b ≤ 0x46 then some (b.toNat - 0x41 + 10)
  else if 0x61 ≤ b && b ≤ 0x66 then some (b.toNat - 0x61 + 10)
  else none

/-- Resolves percent signs that are followed by two hexadecimal digits; all else
    stands for itself. -/
def decodePercent : List UInt8 → List UInt8
  | b :: high :: low :: more =>
    match b, hexValue? high, hexValue? low with
    | 0x25, some h, some l => UInt8.ofNat (h * 16 + l) :: decodePercent more
    | _, _, _ => b :: decodePercent (high :: low :: more)
  | bs => bs
termination_by bs => bs.length

/-- The text of a segment; none when its bytes are not UTF-8. -/
def segmentText? (segment : String) : Option String :=
  String.fromUTF8? ⟨(decodePercent segment.toUTF8.toList).toArray⟩

end BucketPlan.Target
