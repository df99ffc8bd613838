/-!
How large a number is to its reader. A reader keeps the leading digits that fit
in 64 bits and the power of ten that they are scaled by. The double it makes of
them is the product of two doubles, each of them rounded, and is rounded again;
near the greatest double this differs from the double nearest to the number.
-/

namespace BucketPlan

/-- A size as the reader of a number keeps it: `significand * 10 ^ scale`. -/
structure Magnitude where
  significand : Nat
  scale : Int
deriving DecidableEq, Repr

namespace Magnitude

/-! ## Digits -/

/-- Takes digits behind a significand as long as it stays below 2⁶⁴, and gives
    those that are left. -/
def absorb (significand : Nat) : List Nat → Nat × List Nat
  | [] => (significand, [])
  | d :: ds =>
    if significand * 10 + d < 18446744073709551616 then absorb (significand * 10 + d) ds
    else (significand, d :: ds)

/-- The value of the digits of an exponent; of more than 64 bits the leading ones,
    which are out of all bounds as well. -/
def exponentValue (digits : List Nat) : Nat := (absorb 0 digits).1

/-- The size of a number from its digits before and behind the point, and its
    exponent. A digit before the point that is left over scales by ten; one
    behind the point is dropped. -/
def ofDigits (whole fraction : List Nat) (exponent : Int) : Magnitude :=
  let (significand, overWhole) := absorb 0 whole
  let (significand, overFraction) := absorb significand fraction
  ⟨significand, overWhole.length + overFraction.length - fraction.length + exponent⟩

/-! ## Doubles -/

/-- The double nearest to a natural number that is not too large for one; of two
    that are equally near, the one with an even last bit. -/
def nearestDouble (n : Nat) : Nat :=
  let unit := Nat.pow 2 (n.log2 - 52)
  let low := n / unit * unit
  if 2 * (n - low) < unit ∨ (2 * (n - low) = unit ∧ n / unit % 2 = 0) then low else low + unit

/-- The least number that is rounded to no finite double, half a step above the
    greatest of them. -/
def doubleLimit : Nat := Nat.pow 2 1024 - Nat.pow 2 970

/-- No finite double is made of the size. The powers of ten are doubles up to
    the 308th; zero is never too large. -/
def exceedsDouble (m : Magnitude) : Bool :=
  if m.significand = 0 ∨ m.scale < 0 then false
  else if 308 < m.scale then true
  else doubleLimit ≤ nearestDouble m.significand * nearestDouble (Nat.pow 10 m.scale.toNat)

end Magnitude

end BucketPlan
