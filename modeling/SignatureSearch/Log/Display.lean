import SignatureSearch.Log.Value
import SignatureSearch.Number.Layout
import SignatureSearch.Text.Quoted

/-!
# Displaying values

How a message shows the values that it mentions: a text as it is or cited between quote marks, a
number in the shortest way that reads back, and the parts of a value cited inside brackets.
-/

namespace SignatureSearch
namespace Log
namespace Value

/-- Texts with a comma and a space between neighbours. -/
def separated : List (List Char) → List Char
  | [] => []
  | [first] => first
  | first :: next :: rest => first ++ ',' :: ' ' :: separated (next :: rest)

/-- A text between brackets. -/
def bracketed (opening closing : String) (text : List Char) : List Char :=
  opening.toList ++ text ++ closing.toList

/-- Octets as a message cites them: the printable ones of ASCII as they are.  Where they are mutable
there is a backslash before every apostrophe. -/
def citedOctets (mutable : Bool) (octets : List UInt8) : List Char :=
  let shown := octets.map fun octet => Char.ofNat octet.toNat
  let mark := Text.quoteMark shown
  let cited := shown.flatMap fun c =>
    if 0x7F ≤ c.toNat then Text.escapeCodePoint c.toNat
    else Text.escapeChar (if mutable && c == '\'' then c else mark) c
  'b' :: mark :: cited ++ [mark]

/-- How a range is written. -/
def rangeText (start stop : Int) : String :=
  "range(" ++ toString start ++ ", " ++ toString stop ++ ")"

mutual

/-- A value as a message cites it. -/
def cited : Value → List Char
  | null => "None".toList
  | bool value => (if value then "True" else "False").toList
  | int value => (toString value).toList
  | real value => Number.shortestText (Binary.ofDecimal value)
  | text value => Text.quoteChars value.toList
  | list items => bracketed "[" "]" (separated (citedAll items))
  | table members => bracketed "\x7b" "\x7d" (separated (citedMembers members))
  | collection false [] => "set()".toList
  | collection true [] => "frozenset()".toList
  | collection false (item :: items) =>
      bracketed "\x7b" "\x7d" (separated (cited item :: citedAll items))
  | collection true (item :: items) =>
      bracketed "frozenset(\x7b" "\x7d)" (separated (cited item :: citedAll items))
  | path value => bracketed "PosixPath(" ")" (Text.quoteChars value.chars)
  | octets false value => citedOctets false value
  | octets true value => bracketed "bytearray(" ")" (citedOctets true value)
  | failure subject => bracketed "ValueError(" ")" (cited subject)
  | range start stop => (rangeText start stop).toList

/-- Values as a message cites them. -/
def citedAll : List Value → List (List Char)
  | [] => []
  | value :: values => cited value :: citedAll values

/-- Named values as a message cites them. -/
def citedMembers : List (String × Value) → List (List Char)
  | [] => []
  | (name, value) :: members =>
      (Text.quoteChars name.toList ++ ':' :: ' ' :: cited value) :: citedMembers members

end

/-- A value as a message shows it. -/
def shown : Value → List Char
  | text value => value.toList
  | path value => value.chars
  | failure subject => shown subject
  | value => value.cited

/-- A value as a message of ASCII characters cites it. -/
def citedAscii (value : Value) : List Char :=
  value.cited.flatMap fun c => if c.toNat < 0x80 then [c] else Text.escapeCodePoint c.toNat

end Value
end Log
end SignatureSearch
