import SignatureSearch.Number.Shortest

/-!
# How numbers are written

Decimal texts of binary numbers: the shortest that reads back, a fixed number of places, and a fixed
number of significant digits.  Digits that do not fit are rounded, and a half goes to the even
neighbour.
-/

namespace SignatureSearch
namespace Number

/-- The decimal digits of a whole number. -/
def digitsOf (n : Nat) : List Char :=
  Nat.toDigits 10 n

/-- Digits with zeros in front up to a width. -/
def padZeros (width : Nat) (digits : List Char) : List Char :=
  List.replicate (width - digits.length) '0' ++ digits

/-- The exponent part of a text: a sign and two digits at the least. -/
def exponentPart (mark : Char) (exponent : Int) : List Char :=
  mark :: (if exponent < 0 then '-' else '+') :: padZeros 2 (digitsOf exponent.natAbs)

/-- Digits with a point after the first so many of them; a point that nothing follows is left out
unless it is asked for. -/
def withPoint (whole : Nat) (keepPoint : Bool) (digits : List Char) : List Char :=
  let places := digits.drop whole
  digits.take whole ++ (if places.isEmpty && !keepPoint then [] else '.' :: places)

/-- A minus sign before the text of a negative number. -/
def signed (negative : Bool) (text : List Char) : List Char :=
  if negative then '-' :: text else text

/-- The shortest text of a number: positional from a ten-thousandth up to ten to the sixteenth, and
with a point at least where it is positional. -/
def shortestText (x : Binary) : List Char :=
  let decimal := x.shortest
  let digits := digitsOf decimal.digits
  let leading : Int := decimal.exponent + digits.length - 1
  signed x.negative <|
    if leading < -4 ∨ 16 ≤ leading then withPoint 1 false digits ++ exponentPart 'e' leading
    else if leading < 0 then
      '0' :: '.' :: List.replicate (leading.natAbs - 1) '0' ++ digits
    else
      let whole := leading.toNat + 1
      let padded := digits ++ List.replicate (whole - digits.length) '0'
      if padded.length = whole then padded ++ ['.', '0'] else withPoint whole true padded

/-- A number with a fixed number of places, the sign apart. -/
def fixedPlaces (keepPoint : Bool) (places : Nat) (x : Binary) : List Char :=
  let units := Binary.inUnits x.fraction (-places)
  let digits := padZeros (places + 1) (digitsOf (nearestWhole units.1 units.2))
  withPoint (digits.length - places) keepPoint digits

/-- A positive number rounded to so many significant digits, and the power of ten that the first of
them stands for. -/
def significant (count : Nat) (x : Binary) : List Char × Int :=
  if x.mantissa = 0 then (List.replicate count '0', 0)
  else
    let leading := x.nextTen - 1
    let units := Binary.inUnits x.fraction (leading + 1 - count)
    let rounded := nearestWhole units.1 units.2
    if rounded < tenTo count then (padZeros count (digitsOf rounded), leading)
    else (padZeros count (digitsOf (tenTo (count - 1))), leading + 1)

/-- A number with one digit before the point, a fixed number of places and an exponent, the sign
apart. -/
def scientific (keepPoint : Bool) (places : Nat) (mark : Char) (x : Binary) : List Char :=
  let rounded := significant (places + 1) x
  withPoint 1 keepPoint rounded.1 ++ exponentPart mark rounded.2

/-- Digits without the zeros at their end, as many as are asked for kept. -/
def dropZeros (keep : Nat) (digits : List Char) : List Char :=
  let kept := (digits.reverse.dropWhile (· == '0')).reverse
  digits.take (max keep kept.length)

/-- A number with so many significant digits, the zeros at their end left out unless they are asked
for, and with an exponent where the first digit is far from the point; the sign apart. -/
def general (keepZeros : Bool) (count : Nat) (mark : Char) (x : Binary) : List Char :=
  let count := max count 1
  let (digits, leading) := significant count x
  if leading < -4 ∨ (count : Int) ≤ leading then
    withPoint 1 keepZeros (if keepZeros then digits else dropZeros 1 digits)
      ++ exponentPart mark leading
  else if leading < 0 then
    let places := List.replicate (leading.natAbs - 1) '0' ++ digits
    withPoint 1 keepZeros ('0' :: (if keepZeros then places else dropZeros 0 places))
  else
    let whole := leading.toNat + 1
    withPoint whole keepZeros (if keepZeros then digits else dropZeros whole digits)

end Number
end SignatureSearch
