import SignatureSearch.Log.Value

/-!
# Comparing logged values

Which values are the same, which of two comes first, and how values are put in order.  Numbers are
compared by value, whatever their type, and a collection comes before those that hold all of it and
more, so of two collections neither may come first.
-/

namespace SignatureSearch
namespace Log
namespace Value

/-- The value of a number as a fraction of whole numbers. -/
def fraction? : Value → Option (Int × Nat)
  | bool value => some (if value then 1 else 0, 1)
  | int value => some (value, 1)
  | real value =>
      let x := Binary.ofDecimal value
      some (if x.negative then -(x.fraction.1 : Int) else x.fraction.1, x.fraction.2)
  | _ => none

/-- Whether two values are numbers of one value. -/
def sameNumber (a b : Value) : Bool :=
  match a.fraction?, b.fraction? with
  | some a, some b => a.1 * b.2 == b.1 * a.2
  | _, _ => false

/-- How many numbers a range holds. -/
def rangeSize (start stop : Int) : Nat :=
  (stop - start).toNat

mutual

/-- Whether two values are the same, of those that a collection may hold. -/
def same : Value → Value → Bool
  | null, null => true
  | text a, text b => a == b
  | path a, path b => a == b
  | octets _ a, octets _ b => a == b
  | range start stop, range start' stop' =>
      rangeSize start stop == rangeSize start' stop'
        && (start == start' || rangeSize start stop == 0)
  | collection _ items, collection _ others =>
      items.length == others.length && among others items
  | a, b => sameNumber a b

/-- Whether values are all among others. -/
def among (others : List Value) : List Value → Bool
  | [] => true
  | value :: values => others.any value.same && among others values

end

/-- Values without those that are there already. -/
def distinct (kept : List Value) : List Value → List Value
  | [] => kept.reverse
  | value :: values =>
      if kept.any value.same then distinct kept values else distinct (value :: kept) values

/-- The kinds of values that have an order. -/
inductive Kind where
  /-- A number. -/
  | number
  /-- A text. -/
  | text
  /-- A path. -/
  | path
  /-- Octets. -/
  | octets
  /-- A collection. -/
  | collection
  deriving DecidableEq, Repr

/-- The kind of a value that has an order. -/
def kind? : Value → Option Kind
  | bool _ | int _ | real _ => some .number
  | text _ => some .text
  | path _ => some .path
  | octets _ _ => some .octets
  | collection _ _ => some .collection
  | _ => none

/-- Whether a value comes before another of its kind: texts, paths and octets are compared by their
parts from the first. -/
def precedes (a b : Value) : Bool :=
  match a, b with
  | text a, text b => a < b
  | path a, path b => compare a.sortKey b.sortKey == .lt
  | octets _ a, octets _ b => compare (a.map UInt8.toNat) (b.map UInt8.toNat) == .lt
  | collection _ a, collection _ b => a.length < b.length && among b a
  | a, b =>
      match a.fraction?, b.fraction? with
      | some a, some b => a.1 * b.2 < b.1 * a.2
      | _, _ => false

end Value

/-- The first place from one up to another at which a value is below, if it stays so after the first
such place; the interval is halved until nothing is left of it. -/
def firstBelow (below : Nat → Bool) (low high : Nat) : Nat :=
  if low < high then
    let middle := low + (high - low) / 2
    if below middle then firstBelow below low middle else firstBelow below (middle + 1) high
  else low
termination_by high - low

namespace Value

/-- A value put among values in order, behind those that it does not come before. -/
def placeAmong (values : List Value) (value : Value) : List Value :=
  let below := fun place => (values[place]?.map value.precedes).getD false
  values.insertIdx (firstBelow below 0 values.length) value

/-- The values at the head whose neighbours, the last value before them included, stand in a
relation from left to right, apart from the others. -/
def run (related : Value → Value → Bool) (last : Value) : List Value → List Value × List Value
  | [] => ([], [])
  | value :: values =>
      if related last value then
        let (found, rest) := run related value values
        (value :: found, rest)
      else ([], value :: values)

/-- Values in order.  Where the first of them descend they are turned round, where they do not they
stay as they are, and each of the others is put among those before it. -/
def arranged : List Value → List Value
  | [] => []
  | value :: values =>
      let (down, rest) := run (fun last next => next.precedes last) value values
      if down.isEmpty then
        let (up, rest) := run (fun last next => !next.precedes last) value values
        rest.foldl placeAmong (value :: up)
      else rest.foldl placeAmong (value :: down).reverse

/-- Whether values are all of one kind that has an order. -/
def areOfOneKind (values : List Value) : Bool :=
  match values with
  | [] => true
  | value :: values => value.kind?.isSome && values.all fun other => other.kind? == value.kind?

/-- The items of a collection in order, if they have one; a single item needs none. -/
def ordered (items : List Value) : List Value :=
  if items.length < 2 || areOfOneKind items then arranged items else items

end Value
end Log
end SignatureSearch
