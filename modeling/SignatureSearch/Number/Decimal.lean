import SignatureSearch.Number.Power

/-!
# Decimal numbers

Finite decimal fractions as they are written: a sign, the digits, and the power of ten that they
are multiples of.  Two spellings of one value are two decimals.
-/

namespace SignatureSearch

/-- A decimal fraction. -/
structure Decimal where
  /-- Whether a minus sign is written. -/
  negative : Bool
  /-- The digits, read as a whole number. -/
  digits : Nat
  /-- The power of ten that the last digit stands for. -/
  exponent : Int
  deriving DecidableEq, Repr, Inhabited

namespace Decimal

open Number (tenTo twoTo)

/-- The whole number that a run of digits writes. -/
def readDigits (digits : List Char) : Nat :=
  digits.foldl (fun value digit => 10 * value + (digit.toNat - '0'.toNat)) 0

/-- Whether a decimal is nearer to infinity than to any number of the double format. -/
def overflows (decimal : Decimal) : Bool :=
  let bound := twoTo 1024 - twoTo 970
  if decimal.digits = 0 then false
  else if decimal.exponent < 0 then
    decimal.digits ≥ tenTo 309 && decimal.digits ≥ bound * tenTo decimal.exponent.natAbs
  else decimal.exponent ≥ 309 || decimal.digits * tenTo decimal.exponent.toNat ≥ bound

/-- The value as a fraction of whole numbers, the sign apart. -/
def fraction (decimal : Decimal) : Nat × Nat :=
  if decimal.exponent < 0 then (decimal.digits, tenTo decimal.exponent.natAbs)
  else (decimal.digits * tenTo decimal.exponent.toNat, 1)

/-- How a decimal is written with an exponent. -/
def text (decimal : Decimal) : String :=
  (if decimal.negative then "-" else "") ++ toString decimal.digits ++ "e"
    ++ toString decimal.exponent

end Decimal
end SignatureSearch
