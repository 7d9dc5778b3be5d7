import SignatureSearch.Number.Binary

/-!
# Amounts

The numbers that a metric records.  Whole numbers are exact among themselves, and are rounded to the
double format where they meet a number of that format; what a store keeps is of that format.
-/

namespace SignatureSearch
namespace Metric

/-- Numbers that can be recorded. -/
class Measure (α : Type) where
  /-- The value of a store in which nothing is recorded. -/
  zero : α
  /-- The amount that counts one thing. -/
  one : α
  /-- The sum of two numbers. -/
  add : α → α → α
  /-- The number that leads from the second of two numbers to the first. -/
  sub : α → α → α
  /-- Whether a number is below zero. -/
  isNegative : α → Bool
  /-- Whether a number is zero. -/
  isZero : α → Bool
  /-- A number as a store keeps it, if it is not too large. -/
  kept? : α → Option α

instance : Measure Int where
  zero := 0
  one := 1
  add := (· + ·)
  sub := (· - ·)
  isNegative := fun n => n < 0
  isZero := fun n => n == 0
  kept? := some

/-- An amount that is recorded. -/
inductive Amount where
  /-- A whole number. -/
  | whole (value : Int)
  /-- A number of the double format. -/
  | real (value : Binary)
  deriving DecidableEq, Repr, Inhabited

namespace Amount

/-- An amount as a number of the double format, if it is not too large. -/
def binary? : Amount → Option Binary
  | whole value => Binary.ofInt? value
  | real value => some value

/-- An amount with the other sign. -/
def negated : Amount → Amount
  | whole value => whole (-value)
  | real value => real value.negated

/-- The sum of two amounts; what is too large to be rounded leaves the other as it is. -/
def add : Amount → Amount → Amount
  | whole a, whole b => whole (a + b)
  | a, b =>
      match a.binary?, b.binary? with
      | some x, some y => real (x.add y)
      | some _, none => a
      | none, _ => b

/-- Whether an amount is below zero. -/
def isNegative : Amount → Bool
  | whole value => value < 0
  | real value => value.negative && value.mantissa != 0

/-- Whether an amount is zero. -/
def isZero : Amount → Bool
  | whole value => value == 0
  | real value => value.mantissa == 0

end Amount

instance : Measure Amount where
  zero := .real { negative := false, mantissa := 0, exponent := 0 }
  one := .real { negative := false, mantissa := 1, exponent := 0 }
  add := Amount.add
  sub := fun a b => a.add b.negated
  isNegative := Amount.isNegative
  isZero := Amount.isZero
  kept? := fun amount => amount.binary?.map Amount.real

end Metric
end SignatureSearch
