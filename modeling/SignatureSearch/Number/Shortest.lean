import SignatureSearch.Number.Binary

/-!
# Shortest decimals

The decimal with the fewest digits that reads back as a given binary number, and of several such
decimals the nearest.  A decimal reads back as a number when it lies between the midpoints to the
neighbours of the number; the midpoints themselves read back as the even neighbour.
-/

namespace SignatureSearch
namespace Binary

open Number (tenTo twoTo)

/-- How a positive decimal compares with a whole number times a power of two. -/
def compareDecimal (digits : Nat) (tens : Int) (whole : Nat) (twos : Int) : Ordering :=
  compare (digits * tenTo tens.toNat * twoTo (-twos).toNat)
    (whole * twoTo twos.toNat * tenTo (-tens).toNat)

/-- Whether the neighbour below a number is nearer than the neighbour above. -/
def isNarrowBelow (x : Binary) : Bool :=
  x.mantissa == twoTo 52 && leastExponent < x.exponent

/-- Whether a decimal reads back as a number, signs apart. -/
def readsBack (x : Binary) (digits : Nat) (tens : Int) : Bool :=
  let low := if x.isNarrowBelow then 4 * x.mantissa - 1 else 4 * x.mantissa - 2
  let high := 4 * x.mantissa + 2
  let even := x.mantissa % 2 == 0
  let belowHigh := compareDecimal digits tens high (x.exponent - 2)
  let aboveLow := compareDecimal digits tens low (x.exponent - 2)
  (aboveLow == .gt || (even && aboveLow == .eq)) && (belowHigh == .lt || (even && belowHigh == .eq))

/-- A fraction counted in units of a power of ten. -/
def inUnits (fraction : Nat × Nat) (tens : Int) : Nat × Nat :=
  (fraction.1 * tenTo (-tens).toNat, fraction.2 * tenTo tens.toNat)

/-- The decimal in units of a power of ten that reads back as a number, the nearer of two. -/
def onGrid? (x : Binary) (tens : Int) : Option Nat :=
  let units := inUnits x.fraction tens
  let below := units.1 / units.2
  match x.readsBack below tens && 0 < below, x.readsBack (below + 1) tens with
  | true, true => some (nearestWhole units.1 units.2)
  | true, false => some below
  | false, true => some (below + 1)
  | false, false => none

/-- The power of ten next above a positive fraction, from a first guess and a number of trials. -/
def nextTenFrom (fraction : Nat × Nat) : Nat → Int → Int
  | 0, tens => tens
  | trials + 1, tens =>
      let units := inUnits fraction tens
      if units.1 < units.2 then tens else nextTenFrom fraction trials (tens + 1)

/-- The least power of ten above a positive number. -/
def nextTen (x : Binary) : Int :=
  let guess : Int := magnitude x.fraction * 30103 / 100000 - 1
  nextTenFrom x.fraction 4 guess

/-- Digits without the zeros at their end, and the power of ten that the last one stands for. -/
def stripZeros : Nat → Nat → Int → Nat × Int
  | 0, digits, tens => (digits, tens)
  | trials + 1, digits, tens =>
      if digits % 10 = 0 then stripZeros trials (digits / 10) (tens + 1) else (digits, tens)

/-- The exact decimal of a number, signs apart. -/
def exactDigits (x : Binary) : Nat × Int :=
  if x.exponent < 0 then (x.mantissa * Nat.pow 5 x.exponent.natAbs, x.exponent)
  else (x.mantissa * twoTo x.exponent.toNat, 0)

/-- The shortest decimal of a number. -/
def shortest (x : Binary) : Decimal :=
  if x.mantissa = 0 then { negative := x.negative, digits := 0, exponent := 0 }
  else
    let top := x.nextTen
    let found := (List.range 17).findSome? fun (count : Nat) =>
      let tens := top - count - 1
      (x.onGrid? tens).map fun digits => (digits, tens)
    let chosen := found.getD x.exactDigits
    let stripped := stripZeros 400 chosen.1 chosen.2
    { negative := x.negative, digits := stripped.1, exponent := stripped.2 }

end Binary
end SignatureSearch
