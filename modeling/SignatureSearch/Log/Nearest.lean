import SignatureSearch.Log.Comparison
import SignatureSearch.Log.Display
import SignatureSearch.Text.Octets

/-!
# The nearest JSON value

Some of what a log record carries is no JSON value.  It is written as the one that is nearest: a
collection as a list, in order where its items have one, octets as the text that they encode, and
other things as a message shows them.
-/

namespace SignatureSearch
namespace Log
namespace Value

mutual

/-- The value with the items of its collections in order. -/
def settled : Value → Value
  | list items => list (settledAll items)
  | table members => table (settledMembers members)
  | collection frozen items => collection frozen (ordered (settledAll items))
  | value => value

/-- The values with the items of their collections in order. -/
def settledAll : List Value → List Value
  | [] => []
  | value :: values => settled value :: settledAll values

/-- The named values with the items of their collections in order. -/
def settledMembers : List (String × Value) → List (String × Value)
  | [] => []
  | (name, value) :: members => (name, settled value) :: settledMembers members

end

mutual

/-- The JSON value that is nearest to a value whose collections are settled. -/
def plainJson : Value → Json
  | null => .null
  | bool value => .bool value
  | int value => .int value
  | real value => .real value
  | text value => .string value
  | list items => .array (plainItems items)
  | table members => .object (plainMembers members)
  | collection _ items => .array (plainItems items)
  | octets _ value => .string (Text.decodeLenient value)
  | value => .string (String.ofList value.shown)

/-- The JSON values that are nearest to values. -/
def plainItems : List Value → List Json
  | [] => []
  | value :: values => plainJson value :: plainItems values

/-- The JSON values that are nearest to named values. -/
def plainMembers : List (String × Value) → List (String × Json)
  | [] => []
  | (name, value) :: members => (name, plainJson value) :: plainMembers members

end

/-- The JSON value that is nearest to a value. -/
def json (value : Value) : Json :=
  value.settled.plainJson

mutual

/-- Whether the whole numbers in a value fit into 64 bits, with a sign or without. -/
def fits : Value → Bool
  | int value => -(Number.twoTo 63 : Int) ≤ value && value < Number.twoTo 64
  | list items => fitAll items
  | table members => fitMembers members
  | collection _ items => fitAll items
  | _ => true

/-- Whether the whole numbers in values fit into 64 bits. -/
def fitAll : List Value → Bool
  | [] => true
  | value :: values => fits value && fitAll values

/-- Whether the whole numbers in named values fit into 64 bits. -/
def fitMembers : List (String × Value) → Bool
  | [] => true
  | (_, value) :: members => fits value && fitMembers members

end

end Value
end Log
end SignatureSearch
