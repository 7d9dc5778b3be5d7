import SignatureSearch.Json.Reader
import SignatureSearch.Number.Binary
import SignatureSearch.Text.Blank
import SignatureSearch.Validation.Issue

/-!
# Reading scalars

Texts, whole numbers, truth values and numbers from the values that come from outside.  Settings
arrive as text as often as not, so a text that writes a value of the right kind is taken for it.

Which texts these are is assumed of the library that does the checks: the words for truth values,
the forms of numerals, and the limits on their length and size are its own.
-/

namespace SignatureSearch
namespace Validation

/-- The ends of a text without spaces. -/
def trimSpace (text : List Char) : List Char :=
  ((text.dropWhile Text.isSpace).reverse.dropWhile Text.isSpace).reverse

/-- A numeral without the underscores after its first character; none where an underscore is at
the end or has another beside it. -/
def dropInnerUnderscores : List Char → Option (List Char)
  | [] => some []
  | ['_'] => none
  | '_' :: '_' :: _ => none
  | '_' :: rest => dropInnerUnderscores rest
  | c :: rest => (dropInnerUnderscores rest).map (c :: ·)

/-- A numeral without its underscores, as it is where they do not all stand between other
characters. -/
def dropUnderscores (numeral : List Char) : List Char :=
  if numeral.head? = some '_' then numeral
  else (dropInnerUnderscores numeral).getD numeral

/-- A numeral from its first character that counts: zeros in front are passed over, and underscores
among them. -/
def dropZeros : List Char → Option (List Char)
  | '0' :: rest =>
      let filler := fun c => c == '0' || c == '_'
      let last := (rest.takeWhile filler).getLast?.getD '0'
      match rest.dropWhile filler with
      | [] => some [last]
      | c :: tail =>
          if c.isDigit || c == '-' then some (c :: tail)
          else if c = '.' then some (last :: c :: tail)
          else none
  | c :: rest => if c.isDigit || c == '-' then some (c :: rest) else none
  | [] => none

/-- A numeral without a point that zeros follow and nothing else. -/
def dropPoint (numeral : List Char) : List Char :=
  match numeral.span (· ≠ '.') with
  | (whole, _ :: place :: places) => if (place :: places).all (· == '0') then whole else numeral
  | _ => numeral

/-- The most characters of a whole number, its sign among them. -/
def numeralLimit : Nat := 4300

/-- Whether a text starts with a whole number of too many characters, whatever follows it. -/
def startsOversized (text : List Char) : Bool :=
  let digits := if text.head? = some '-' then text.drop 1 else text
  let length := (digits.takeWhile Char.isDigit).length + (text.length - digits.length)
  numeralLimit < length && digits.head? != some '0'

/-- The whole number that a plain numeral writes. -/
def readNumeral? (numeral : List Char) : Option Int :=
  let (negative, digits) :=
    match numeral with
    | '-' :: rest => (true, rest)
    | digits => (false, digits)
  if digits.isEmpty || !digits.all Char.isDigit || (digits.length > 1 && digits.head? == some '0')
    || numeral.length > numeralLimit
  then none
  else
    let magnitude : Int := Decimal.readDigits digits
    some (if negative then -magnitude else magnitude)

/-- A numeral in plain form: without spaces around it, a plus sign, zeros in front, a point that
only zeros follow, and underscores. -/
def plainNumeral? (text : List Char) : Option (List Char) :=
  let plain := fun (numeral : List Char) => (dropZeros numeral).map (dropUnderscores ∘ dropPoint)
  match trimSpace text with
  | '+' :: '-' :: _ => none
  | '+' :: rest => plain rest
  | '-' :: rest => (plain rest).map ('-' :: ·)
  | numeral => plain numeral

/-- The whole number that a text writes. -/
def readInteger (text : String) : Validated Int :=
  if startsOversized text.toList then .fail .oversizedInteger
  else
    match (plainNumeral? text.toList).bind readNumeral? with
    | none => .fail .unreadableInteger
    | some value => .ok value

/-- Whether a number of the double format lies inside the range of whole numbers of 64 bits. -/
def isWordSized (whole : Int) : Bool :=
  whole.natAbs < Number.twoTo 63

/-- A whole number. -/
def checkInteger : Json → Validated Int
  | .int value => .ok value
  | .bool value => .ok (if value then 1 else 0)
  | .real value =>
      match (Binary.ofDecimal value).whole? with
      | some whole => if isWordSized whole then .ok whole else .fail .oversizedInteger
      | none => .fail .fractionalInteger
  | .string text => readInteger text
  | _ => .fail .notInteger

/-- A whole number from one up. -/
def checkPositive (value : Json) : Validated { n : Nat // 1 ≤ n } :=
  match checkInteger value with
  | .error issues => .error issues
  | .ok (.ofNat n) => if h : 1 ≤ n then .ok ⟨n, h⟩ else .fail .tooSmall
  | .ok (.negSucc _) => .fail .tooSmall

/-- The truth value that a word means, in any case. -/
def readBoolean (text : String) : Validated Bool :=
  let word := text.map Char.toLower
  if word ∈ ["1", "t", "true", "y", "yes", "on"] then .ok true
  else if word ∈ ["0", "f", "false", "n", "no", "off"] then .ok false
  else .fail .unreadableBoolean

/-- The truth value that a number of 64 bits means. -/
def booleanOf (value : Int) : Validated Bool :=
  if value = 0 then .ok false
  else if value = 1 then .ok true
  else if isWordSized value || value = -(Number.twoTo 63 : Int) then .fail .unreadableBoolean
  else .fail .notBoolean

/-- A truth value. -/
def checkBoolean : Json → Validated Bool
  | .bool value => .ok value
  | .string text => readBoolean text
  | .int value => booleanOf value
  | .real value =>
      match (Binary.ofDecimal value).whole? with
      | some whole => if isWordSized whole then booleanOf whole else .fail .notBoolean
      | none => .fail .notBoolean
  | _ => .fail .notBoolean

/-- A text. -/
def checkString : Json → Validated String
  | .string text => .ok text
  | _ => .fail .notText

/-- What follows the digits at the head of a text, and whether there are any. -/
def afterDigits (text : List Char) : Bool × List Char :=
  (text.head?.any Char.isDigit, text.dropWhile Char.isDigit)

/-- A text without the sign at its head. -/
def unsigned : List Char → List Char
  | '+' :: rest => rest
  | '-' :: rest => rest
  | text => text

/-- Whether a text writes a number, in digits or as one of the words for what is no finite
number. -/
def writesNumber (text : List Char) : Bool :=
  let body := unsigned text
  if String.ofList (body.map Char.toLower) ∈ ["inf", "infinity", "nan"] then true
  else
    let (whole, rest) := afterDigits body
    let (places, rest) :=
      match rest with
      | '.' :: rest => afterDigits rest
      | rest => (false, rest)
    (whole || places) &&
      match rest with
      | [] => true
      | c :: rest => (c == 'e' || c == 'E') && afterDigits (unsigned rest) == (true, [])

/-- A number, of which only that it is one is kept. -/
def checkNumber : Json → Validated Unit
  | .real _ | .bool _ => .ok ()
  | .int value => if (Binary.ofInt? value).isSome then .ok () else .fail .notNumber
  | .string text =>
      if writesNumber (trimSpace text.toList) || writesNumber (dropUnderscores text.toList) then
        .ok ()
      else .fail .unreadableNumber
  | _ => .fail .notNumber

end Validation
end SignatureSearch
