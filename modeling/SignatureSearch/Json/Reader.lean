import SignatureSearch.Json.Value
import SignatureSearch.Text.Octets

/-!
# Reading JSON

The strict grammar of JSON.  A string holds no control character and no lone half of a surrogate
pair, a number has a value in the range of the double format, arrays and objects may be nested
1024 deep, and nothing but blanks follows the value.  Of members with one name the last is kept,
in the place of the first.

The program leaves the reading of JSON to a library.  It is assumed of that library that it accepts
the texts that are accepted here, and no others, and makes the same values of them.
-/

namespace SignatureSearch
namespace Json

/-- What follows in a text after some of it has been read. -/
abbrev Shorter (text : List Char) : Type :=
  { rest : List Char // rest.length < text.length }

/-- What follows in a text after some of it may have been read. -/
abbrev NoLonger (text : List Char) : Type :=
  { rest : List Char // rest.length ≤ text.length }

/-- Whether a character may stand between the parts of a JSON text. -/
def isGap (c : Char) : Bool :=
  c == ' ' || c == '\t' || c == '\n' || c == '\r'

/-- The longest run of characters of one kind at the head of a text, apart from the rest. -/
def spanWhile (kind : Char → Bool) (text : List Char) : List Char × NoLonger text :=
  (text.takeWhile kind,
    ⟨text.dropWhile kind, (List.dropWhile_suffix kind).length_le⟩)

/-- A text without the gap before its first part. -/
def skipGap (text : List Char) : NoLonger text :=
  (spanWhile isGap text).2

/-- The value of four hexadecimal digits at the head of a text. -/
def readUnit (text : List Char) : Option (Nat × Shorter text) :=
  match text with
  | a :: b :: c :: d :: rest => do
      let a ← Text.hexValue? a
      let b ← Text.hexValue? b
      let c ← Text.hexValue? c
      let d ← Text.hexValue? d
      return (((a * 16 + b) * 16 + c) * 16 + d, ⟨rest, by simp; omega⟩)
  | _ => none

/-- The character that the rest of a `\u` escape writes. -/
def readCodePoint (text : List Char) : Option (Char × Shorter text) :=
  match readUnit text with
  | none => none
  | some (high, ⟨rest, _⟩) =>
      if high < 0xD800 ∨ 0xDFFF < high then some (Char.ofNat high, ⟨rest, by omega⟩)
      else
        match rest with
        | '\\' :: 'u' :: tail =>
            match readUnit tail with
            | none => none
            | some (low, ⟨rest, _⟩) =>
                if high ≤ 0xDBFF ∧ 0xDC00 ≤ low ∧ low ≤ 0xDFFF then
                  some
                    (Char.ofNat (0x10000 + (high - 0xD800) * 0x400 + (low - 0xDC00)),
                      ⟨rest, by simp at *; omega⟩)
                else none
        | _ => none

/-- The character that the rest of an escape writes. -/
def readEscape (text : List Char) : Option (Char × Shorter text) :=
  match text with
  | 'u' :: tail =>
      (readCodePoint tail).map fun (c, rest) => (c, ⟨rest.1, by have := rest.2; simp; omega⟩)
  | c :: rest =>
      let plain : Option Char :=
        if c = '"' ∨ c = '\\' ∨ c = '/' then some c
        else if c = 'b' then some (Char.ofNat 0x08)
        else if c = 'f' then some (Char.ofNat 0x0C)
        else if c = 'n' then some '\n'
        else if c = 'r' then some '\r'
        else if c = 't' then some '\t'
        else none
      plain.map fun c => (c, ⟨rest, by simp⟩)
  | [] => none

/-- The rest of a string after its opening quote; `before` holds what was read, last first. -/
def readString (before : List Char) (text : List Char) : Option (String × Shorter text) :=
  match text with
  | [] => none
  | '"' :: rest => some (String.ofList before.reverse, ⟨rest, by simp⟩)
  | '\\' :: tail =>
      match readEscape tail with
      | none => none
      | some (c, ⟨rest, _⟩) =>
          (readString (c :: before) rest).map fun (whole, rest) =>
            (whole, ⟨rest.1, by have := rest.2; simp; omega⟩)
  | c :: tail =>
      if c.toNat < 0x20 then none
      else
        (readString (c :: before) tail).map fun (whole, rest) =>
          (whole, ⟨rest.1, by have := rest.2; simp; omega⟩)
termination_by text.length

/-- A sign at the head of a text, and whether it is a minus. -/
def readSign (plus : Bool) (text : List Char) : Bool × NoLonger text :=
  match text with
  | '-' :: rest => (true, ⟨rest, by simp⟩)
  | '+' :: rest => if plus then (false, ⟨rest, by simp⟩) else (false, ⟨'+' :: rest, by simp⟩)
  | text => (false, ⟨text, Nat.le_refl _⟩)

/-- A run of digits at the head of a text. -/
def readDigits (text : List Char) : Option (List Char × Shorter text) :=
  match text with
  | [] => none
  | c :: tail =>
      if c.isDigit then
        match spanWhile Char.isDigit tail with
        | (digits, ⟨rest, _⟩) => some (c :: digits, ⟨rest, by simp; omega⟩)
      else none

/-- The digits of a fraction, when a point is at the head of a text. -/
def readFraction (text : List Char) : Option (Option (List Char) × NoLonger text) :=
  match text with
  | '.' :: tail =>
      (readDigits tail).map fun (digits, rest) =>
        (some digits, ⟨rest.1, by have := rest.2; simp; omega⟩)
  | text => some (none, ⟨text, Nat.le_refl _⟩)

/-- The value of an exponent, when its mark is at the head of a text. -/
def readExponent (text : List Char) : Option (Option Int × NoLonger text) :=
  match text with
  | c :: tail =>
      if c = 'e' ∨ c = 'E' then
        match readSign true tail with
        | (negative, ⟨unsigned, noLonger⟩) =>
            (readDigits unsigned).map fun (digits, rest) =>
              (some (if negative then -Decimal.readDigits digits else Decimal.readDigits digits),
                ⟨rest.1, Nat.le_succ_of_le (Nat.le_of_lt (Nat.lt_of_lt_of_le rest.2 noLonger))⟩)
      else some (none, ⟨c :: tail, Nat.le_refl _⟩)
  | [] => some (none, ⟨[], Nat.le_refl _⟩)

/-- The value of a number from its parts.  A number beyond the range of the double format has none;
a whole number has its value all the same unless numbers are `bounded`. -/
def ofParts (bounded negative : Bool) (whole : List Char) (fraction : Option (List Char))
    (exponent : Option Int) : Option Json :=
  let places := fraction.getD []
  let decimal : Decimal :=
    { negative
      digits := Decimal.readDigits (whole ++ places)
      exponent := exponent.getD 0 - places.length }
  let isWhole := fraction.isNone && exponent.isNone
  if whole.length > 1 && whole.head? == some '0' then none
  else if (bounded || !isWhole) && decimal.overflows then none
  else if isWhole then some (int (if negative then -decimal.digits else decimal.digits))
  else some (real decimal)

/-- A number at the head of a text. -/
def readNumber (bounded : Bool) (text : List Char) : Option (Json × Shorter text) :=
  match readSign false text with
  | (negative, ⟨unsigned, _⟩) =>
      match readDigits unsigned with
      | none => none
      | some (whole, ⟨rest, _⟩) =>
          match readFraction rest with
          | none => none
          | some (fraction, ⟨rest, _⟩) =>
              match readExponent rest with
              | none => none
              | some (exponent, ⟨rest, _⟩) =>
                  (ofParts bounded negative whole fraction exponent).map fun value =>
                    (value, ⟨rest, by omega⟩)

/-- What follows a given mark at the head of a text, after a gap. -/
def readMark (mark : Char) (text : List Char) : Option (Shorter text) :=
  match skipGap text with
  | ⟨[], _⟩ => none
  | ⟨c :: rest, _⟩ => if c = mark then some ⟨rest, by simp at *; omega⟩ else none

/-- A string at the head of a text, after a gap. -/
def readQuoted (text : List Char) : Option (String × Shorter text) :=
  match readMark '"' text with
  | none => none
  | some ⟨tail, _⟩ =>
      match readString [] tail with
      | none => none
      | some (value, ⟨rest, _⟩) => some (value, ⟨rest, by omega⟩)

mutual

/-- A value at the head of a text, with at most `depth` arrays and objects one in another. -/
def readValue (bounded : Bool) (depth : Nat) (text : List Char) : Option (Json × Shorter text) :=
  match text with
  | '"' :: tail =>
      (readString [] tail).map fun (value, rest) =>
        (string value, ⟨rest.1, by have := rest.2; simp; omega⟩)
  | '[' :: tail =>
      match depth with
      | 0 => none
      | depth + 1 =>
          match readMark ']' tail with
          | some ⟨rest, _⟩ => some (array [], ⟨rest, by simp; omega⟩)
          | none =>
              match readItems bounded depth tail with
              | none => none
              | some (items, ⟨rest, _⟩) => some (array items, ⟨rest, by simp; omega⟩)
  | '{' :: tail =>
      match depth with
      | 0 => none
      | depth + 1 =>
          match readMark '}' tail with
          | some ⟨rest, _⟩ => some (object [], ⟨rest, by simp; omega⟩)
          | none =>
              match readMembers bounded depth tail with
              | none => none
              | some (members, ⟨rest, _⟩) =>
                  some (object (Table.ofRows members).rows, ⟨rest, by simp; omega⟩)
  | 't' :: 'r' :: 'u' :: 'e' :: rest => some (bool true, ⟨rest, by simp; omega⟩)
  | 'f' :: 'a' :: 'l' :: 's' :: 'e' :: rest => some (bool false, ⟨rest, by simp; omega⟩)
  | 'n' :: 'u' :: 'l' :: 'l' :: rest => some (null, ⟨rest, by simp; omega⟩)
  | text => readNumber bounded text
termination_by 2 * text.length

/-- The items of an array that has one, with the bracket that closes it. -/
def readItems (bounded : Bool) (depth : Nat) (text : List Char) :
    Option (List Json × Shorter text) :=
  match skipGap text with
  | ⟨start, _⟩ =>
      match readValue bounded depth start with
      | none => none
      | some (item, ⟨rest, _⟩) =>
          match readMark ']' rest with
          | some ⟨rest, _⟩ => some ([item], ⟨rest, by omega⟩)
          | none =>
              match readMark ',' rest with
              | none => none
              | some ⟨tail, _⟩ =>
                  match readItems bounded depth tail with
                  | none => none
                  | some (items, ⟨rest, _⟩) => some (item :: items, ⟨rest, by omega⟩)
termination_by 2 * text.length + 1

/-- The members of an object that has one, with the brace that closes it. -/
def readMembers (bounded : Bool) (depth : Nat) (text : List Char) :
    Option (List (String × Json) × Shorter text) :=
  match readQuoted text with
  | none => none
  | some (name, ⟨rest, _⟩) =>
      match readMark ':' rest with
      | none => none
      | some ⟨tail, _⟩ =>
          match skipGap tail with
          | ⟨start, _⟩ =>
              match readValue bounded depth start with
              | none => none
              | some (value, ⟨rest, _⟩) =>
                  match readMark '}' rest with
                  | some ⟨rest, _⟩ => some ([(name, value)], ⟨rest, by omega⟩)
                  | none =>
                      match readMark ',' rest with
                      | none => none
                      | some ⟨tail, _⟩ =>
                          match readMembers bounded depth tail with
                          | none => none
                          | some (members, ⟨rest, _⟩) =>
                              some ((name, value) :: members, ⟨rest, by omega⟩)
termination_by 2 * text.length + 1

end

/-- How deep arrays and objects may be nested. -/
def nestingLimit : Nat := 1024

/-- The value that a JSON text writes, where numbers may be `bounded` by the double format. -/
def readText? (bounded : Bool) (text : String) : Option Json :=
  match readValue bounded nestingLimit (skipGap text.toList).1 with
  | some (value, ⟨rest, _⟩) => if rest.all isGap then some value else none
  | none => none

/-- The value that a JSON text writes. -/
def read? (text : String) : Option Json :=
  readText? true text

end Json
end SignatureSearch
