import SignatureSearch.Files.Path
import SignatureSearch.Json.Value
import SignatureSearch.Number.Binary

/-!
# Logged values

What a log record can carry: the values of JSON and a few more, each with the name of its type, by
which messages speak of it.
-/

namespace SignatureSearch
namespace Log

/-- A value that a log record carries. -/
inductive Value where
  /-- No value. -/
  | null
  /-- A truth value. -/
  | bool (value : Bool)
  /-- A whole number. -/
  | int (value : Int)
  /-- A number of the double format. -/
  | real (value : Decimal)
  /-- A text. -/
  | text (value : String)
  /-- A list of values. -/
  | list (items : List Value)
  /-- Named values. -/
  | table (members : List (String × Value))
  /-- Values without repetition, which are frozen if none can be added. -/
  | collection (frozen : Bool) (items : List Value)
  /-- A path of the file system. -/
  | path (path : Path)
  /-- Octets, of a text more often than not, which are mutable if they can be changed in place. -/
  | octets (mutable : Bool) (octets : List UInt8)
  /-- A failure with what it tells. -/
  | failure (subject : Value)
  /-- The whole numbers from one up to another. -/
  | range (start stop : Int)
  deriving Repr, Inhabited

namespace Value

mutual

/-- A JSON value as a record carries it. -/
def ofJson : Json → Value
  | .null => null
  | .bool value => bool value
  | .int value => int value
  | .real value => real value
  | .string value => text value
  | .array items => list (ofItems items)
  | .object members => table (ofMembers members)

/-- JSON values as a record carries them. -/
def ofItems : List Json → List Value
  | [] => []
  | item :: items => ofJson item :: ofItems items

/-- Named JSON values as a record carries them. -/
def ofMembers : List (String × Json) → List (String × Value)
  | [] => []
  | (name, value) :: members => (name, ofJson value) :: ofMembers members

end

/-- Whether a value is more than nothing. -/
def isPresent : Value → Bool
  | null => false
  | bool value => value
  | int value => value != 0
  | real value => (Binary.ofDecimal value).mantissa != 0
  | text value => value != ""
  | list items => !items.isEmpty
  | table members => !members.isEmpty
  | collection _ items => !items.isEmpty
  | octets _ value => !value.isEmpty
  | range start stop => start < stop
  | path _ => true
  | failure _ => true

/-- The name of the type of a value, as messages about it give it. -/
def typeName : Value → String
  | null => "NoneType"
  | bool _ => "bool"
  | int _ => "int"
  | real _ => "float"
  | text _ => "str"
  | list _ => "list"
  | table _ => "dict"
  | collection false _ => "set"
  | collection true _ => "frozenset"
  | path _ => "PosixPath"
  | octets false _ => "bytes"
  | octets true _ => "bytearray"
  | failure _ => "ValueError"
  | range _ _ => "range"

end Value
end Log
end SignatureSearch
