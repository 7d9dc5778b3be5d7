import SignatureSearch.Log.Comparison

/-!
# The order of collections

A collection hands its items out in the order of the slots that they lie in.  Each item has a number
that points at a slot, and takes the first free one from there on; when too few are free, the items
move to a larger table in the order that they have.  Where an item has no number of its own that is
the same in every run, the items keep the order in which they came.
-/

namespace SignatureSearch
namespace Log

open Number (twoTo)

/-- A whole number as a word of 64 bits. -/
def wordOf (n : Int) : Nat :=
  (n.emod (twoTo 64)).toNat

/-- The number below which those of numbers lie. -/
def modulus : Nat := twoTo 61 - 1

/-- The number that points at a slot, of a value that is a size with a sign; minus one is kept for
what has none. -/
def signedNumber (negative : Bool) (size : Nat) : Int :=
  if !negative then size else if size = 1 then -2 else -(size : Int)

/-- The remainder by the modulus of a power of two: sixty-one factors of two make one, so that of
the exponent, which may be negative, the remainder by sixty-one counts. -/
def twoToMod (exponent : Int) : Nat :=
  twoTo (exponent.emod 61).toNat

/-- The bits of a word turned round to the left. -/
def rotate (bits word : Nat) : Nat :=
  word * twoTo bits % twoTo 64 + word / twoTo (64 - bits)

/-- The number of a row of three values from their numbers. -/
def rowNumber (numbers : List Nat) : Nat :=
  let mixed := numbers.foldl (fun state number =>
    rotate 31 ((state + number * 14029467366897019727) % twoTo 64)
      * 11400714785074694791 % twoTo 64) 2870177450012600261
  let found := (mixed + numbers.length.xor (Nat.xor 2870177450012600261 3527539)) % twoTo 64
  if found = twoTo 64 - 1 then 1546275796 else found

/-- The bits of a number scattered over a word. -/
def scatter (number : Nat) : Nat :=
  (number.xor 89869747).xor (number * twoTo 16 % twoTo 64) * 3644798167 % twoTo 64

/-- The number of a collection from the numbers of its items, in whatever order they come. -/
def collectionNumber (numbers : List Nat) : Nat :=
  let mixed := numbers.foldl (fun state number => state.xor (scatter number)) 0
  let mixed := mixed.xor ((numbers.length + 1) * 1927868237 % twoTo 64)
  let mixed := mixed.xor ((mixed / twoTo 11).xor (mixed / twoTo 25))
  let found := (mixed * 69069 + 907133923) % twoTo 64
  if found = twoTo 64 - 1 then 590923713 else found

namespace Value

mutual

/-- The number of a value as a word, if it has one that is the same in every run. -/
def number? : Value → Option Nat
  | bool value => some (if value then 1 else 0)
  | int value => some (wordOf (signedNumber (value < 0) (value.natAbs % modulus)))
  | real value =>
      let x := Binary.ofDecimal value
      some (wordOf (signedNumber x.negative (x.mantissa * twoToMod x.exponent % modulus)))
  | range start stop =>
      if rangeSize start stop < 2 then none
      else
        some (rowNumber
          [rangeSize start stop, wordOf (signedNumber (start < 0) (start.natAbs % modulus)), 1])
  | collection _ items => (numbers? items).map collectionNumber
  | _ => none

/-- The numbers of values, if they all have one. -/
def numbers? : List Value → Option (List Nat)
  | [] => some []
  | value :: values =>
      match number? value, numbers? values with
      | some number, some numbers => some (number :: numbers)
      | _, _ => none

end

end Value

/-- A table of slots, each of them free or taken by something with its number. -/
abbrev Slots (α : Type) : Type :=
  List (Option (Nat × α))

namespace Slots

/-- So many free slots. -/
def free (α : Type) (size : Nat) : Slots α :=
  List.replicate size none

/-- The first free slot among the ten from a place on, or at the place alone if there are fewer. -/
def freeNear {α : Type} (slots : Slots α) (place : Nat) : Option Nat :=
  let count := if place + 9 < slots.length then 10 else 1
  (List.range' place count).find? fun place => ((slots[place]?.map Option.isNone).getD false)

/-- A free slot for a number, looked for in so many places; `rest` are the bits of the number that
have not had a say yet. -/
def freeSlot {α : Type} (slots : Slots α) : Nat → Nat → Nat → Nat
  | 0, _, place => place
  | steps + 1, rest, place =>
      match freeNear slots place with
      | some place => place
      | none =>
          let rest := rest / twoTo 5
          freeSlot slots steps rest ((place * 5 + 1 + rest) % slots.length)

/-- The slots with one more taken. -/
def put {α : Type} (slots : Slots α) (row : Nat × α) : Slots α :=
  slots.set (freeSlot slots (slots.length + 13) row.1 (row.1 % slots.length)) (some row)

/-- What lies in the slots, in their order. -/
def rows {α : Type} (slots : Slots α) : List (Nat × α) :=
  slots.filterMap id

/-- The slots with one more taken, moved to a larger table if more than three fifths are. -/
def add {α : Type} (slots : Slots α) (row : Nat × α) : Slots α :=
  let slots := slots.put row
  let taken := slots.rows.length
  if taken * 5 < (slots.length - 1) * 3 then slots
  else
    let least := if 50000 < taken then 2 * taken else 4 * taken
    slots.rows.foldl put (free α (max 8 (twoTo (least.log2 + 1))))

end Slots

namespace Value

/-- Distinct values in the order in which a collection hands them out. -/
def slotOrder (values : List Value) : List Value :=
  match numbers? values with
  | none => values
  | some numbers =>
      ((numbers.zip values).foldl Slots.add (Slots.free Value 8)).rows.map Prod.snd

/-- Whether a value may be in a collection: it cannot be changed. -/
def isFixed : Value → Bool
  | list _ | table _ | collection false _ | octets true _ => false
  | _ => true

/-- The collection of values, or the first of them that cannot be in one. -/
def collect (frozen : Bool) (values : List Value) : Except Value Value :=
  match values.find? fun value => !value.isFixed with
  | some value => .error value
  | none => .ok (collection frozen (slotOrder (distinct [] values)))

end Value
end Log
end SignatureSearch
