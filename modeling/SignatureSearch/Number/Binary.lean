import SignatureSearch.Number.Decimal

/-!
# Binary numbers

Finite numbers of the double format, taken apart into a sign, a whole number and the power of two
that it is a multiple of.  A fraction has one nearest number of the format; where two are equally
near, the even one is taken.
-/

namespace SignatureSearch

/-- A finite number of the double format. -/
structure Binary where
  /-- Whether the sign is a minus. -/
  negative : Bool
  /-- The whole number that is scaled. -/
  mantissa : Nat
  /-- The power of two by which it is scaled. -/
  exponent : Int
  deriving DecidableEq, Repr, Inhabited

/-- The whole number nearest to a fraction, the even one of two that are equally near. -/
def nearestWhole (numerator denominator : Nat) : Nat :=
  let floor := numerator / denominator
  let twice := 2 * (numerator % denominator)
  if twice < denominator then floor
  else if denominator < twice then floor + 1
  else floor + floor % 2

namespace Binary

open Number (twoTo)

/-- The least power of two of the format. -/
def leastExponent : Int := -1074

/-- A fraction multiplied by a power of two. -/
def scale (fraction : Nat × Nat) (exponent : Int) : Nat × Nat :=
  if exponent < 0 then (fraction.1, fraction.2 * twoTo exponent.natAbs)
  else (fraction.1 * twoTo exponent.toNat, fraction.2)

/-- The greatest power of two that is not above a positive fraction. -/
def magnitude (fraction : Nat × Nat) : Int :=
  let guess : Int := (fraction.1.log2 : Int) - fraction.2.log2
  let scaled := scale fraction (-guess)
  if scaled.1 < scaled.2 then guess - 1 else guess

/-- The number of the format that is nearest to a fraction. -/
def nearest (negative : Bool) (fraction : Nat × Nat) : Binary :=
  let exponent := max (magnitude fraction - 52) leastExponent
  let scaled := scale fraction (-exponent)
  let mantissa := nearestWhole scaled.1 scaled.2
  if mantissa < twoTo 53 then { negative, mantissa, exponent }
  else { negative, mantissa := twoTo 52, exponent := exponent + 1 }

/-- The number of the format that is nearest to a decimal. -/
def ofDecimal (decimal : Decimal) : Binary :=
  nearest decimal.negative decimal.fraction

/-- The number that a bit pattern of the format stands for, if it is finite. -/
def ofBits? (bits : UInt64) : Option Binary :=
  let biased := ((bits >>> 52) &&& 0x7FF).toNat
  let fraction := (bits &&& 0xFFFFFFFFFFFFF).toNat
  let negative := bits >>> 63 == 1
  if biased = 0x7FF then none
  else if biased = 0 then some { negative, mantissa := fraction, exponent := leastExponent }
  else some { negative, mantissa := twoTo 52 + fraction, exponent := biased - 1075 }

/-- The value as a fraction of whole numbers, the sign apart. -/
def fraction (x : Binary) : Nat × Nat :=
  scale (x.mantissa, 1) x.exponent

/-- The whole number that remains when the places after the point are dropped, the sign apart. -/
def wholePart (x : Binary) : Nat :=
  x.fraction.1 / x.fraction.2

/-- The whole number that remains when the places after the point are dropped. -/
def truncate (x : Binary) : Int :=
  if x.negative then -(x.wholePart : Int) else x.wholePart

/-- The number with the other sign. -/
def negated (x : Binary) : Binary :=
  { x with negative := !x.negative }

/-- How often a number contains a power of two that is not above its own. -/
def multiple (x : Binary) (exponent : Int) : Int :=
  let size : Int := x.mantissa * twoTo (x.exponent - exponent).toNat
  if x.negative then -size else size

/-- The number of the format that is nearest to a sum. -/
def add (x y : Binary) : Binary :=
  let exponent := min x.exponent y.exponent
  let sum := x.multiple exponent + y.multiple exponent
  nearest (sum < 0) (scale (sum.natAbs, 1) exponent)

/-- The number of the format that is nearest to a whole number, if that is not too large. -/
def ofInt? (n : Int) : Option Binary :=
  let decimal : Decimal := { negative := n < 0, digits := n.natAbs, exponent := 0 }
  if decimal.overflows then none else some (ofDecimal decimal)

/-- The whole number that a number is, if it is one. -/
def whole? (x : Binary) : Option Int :=
  if x.fraction.1 % x.fraction.2 = 0 then some x.truncate else none

end Binary
end SignatureSearch
