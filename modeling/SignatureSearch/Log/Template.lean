import SignatureSearch.Log.Display

/-!
# Message templates

A template is text with directives in it.  A directive starts with a percent sign and ends with the
letter that says how an argument is shown; between them may stand the name of the argument, flags, a
width and a precision.  Arguments are used in order, or are looked up by name.
-/

namespace SignatureSearch
namespace Log

/-- A width or precision of a directive. -/
inductive Extent where
  /-- None is given. -/
  | unset
  /-- It stands in the template. -/
  | fixed (value : Nat)
  /-- It is the next argument. -/
  | supplied
  deriving DecidableEq, Repr, Inhabited

/-- The name under which a directive looks its argument up. -/
inductive Lookup where
  /-- None: the argument is the next one. -/
  | next
  /-- A name. -/
  | named (name : String)
  /-- A name that no parenthesis closes. -/
  | unclosed
  deriving DecidableEq, Repr, Inhabited

/-- The flags of a directive. -/
structure Flags where
  /-- Blanks go to the right. -/
  left : Bool := false
  /-- A plus sign stands before numbers that are not negative. -/
  plus : Bool := false
  /-- A blank stands before numbers that are not negative. -/
  blank : Bool := false
  /-- The base of a number is shown, or the point that nothing follows. -/
  alternate : Bool := false
  /-- A number is filled with zeros. -/
  zero : Bool := false
  deriving DecidableEq, Repr, Inhabited

/-- A place of a template at which an argument is shown. -/
structure Directive where
  /-- Where the argument is looked up. -/
  lookup : Lookup := .next
  /-- The flags. -/
  flags : Flags := {}
  /-- The least width. -/
  width : Extent := .unset
  /-- The precision. -/
  precision : Extent := .unset
  /-- The letter that says how the argument is shown, and how many characters come before it; none
  when the template ends too early. -/
  conversion : Option (Char × Nat) := none
  deriving DecidableEq, Repr, Inhabited

/-- A piece of a template. -/
inductive Piece where
  /-- A character that stands for itself. -/
  | plain (c : Char)
  /-- An argument. -/
  | directive (directive : Directive)
  deriving DecidableEq, Repr

namespace Directive

/-- The flags with one more. -/
def addFlag? (flags : Flags) : Char → Option Flags
  | '-' => some { flags with left := true }
  | '+' => some { flags with plus := true }
  | ' ' => some { flags with blank := true }
  | '#' => some { flags with alternate := true }
  | '0' => some { flags with zero := true }
  | _ => none

/-- The flags at the head of a text, apart from the text after them. -/
def readFlags (flags : Flags) : List Char → Flags × List Char
  | [] => (flags, [])
  | c :: text =>
      match addFlag? flags c with
      | some flags => readFlags flags text
      | none => (flags, c :: text)

/-- The name in parentheses of which the first has been read, apart from the text after it; `depth`
parentheses are open inside the name. -/
def readName (depth : Nat) : List Char → Option (List Char × List Char)
  | [] => none
  | ')' :: text =>
      match depth with
      | 0 => some ([], text)
      | depth + 1 => (readName depth text).map fun (name, rest) => (')' :: name, rest)
  | c :: text =>
      let depth := if c = '(' then depth + 1 else depth
      (readName depth text).map fun (name, rest) => (c :: name, rest)

/-- Where the argument is looked up, apart from the text after that. -/
def readLookup : List Char → Lookup × List Char
  | '(' :: text =>
      match readName 0 text with
      | some (name, rest) => (.named (String.ofList name), rest)
      | none => (.unclosed, [])
  | text => (.next, text)

/-- A width or precision at the head of a text, apart from the text after it. -/
def readExtent (absent : Extent) : List Char → Extent × List Char
  | '*' :: text => (.supplied, text)
  | text =>
      match text.takeWhile Char.isDigit with
      | [] => (absent, text)
      | digits => (.fixed (Decimal.readDigits digits), text.dropWhile Char.isDigit)

/-- A precision at the head of a text, apart from the text after it. -/
def readPrecision : List Char → Extent × List Char
  | '.' :: text => readExtent (.fixed 0) text
  | text => (.unset, text)

/-- A text without the letter for the size of a number at its head. -/
def skipSize : List Char → List Char
  | c :: text => if c = 'h' ∨ c = 'l' ∨ c = 'L' then text else c :: text
  | [] => []

/-- The directive whose percent sign has been read from a text of some length, apart from the text
after it. -/
def read (length : Nat) (text : List Char) : Directive × List Char :=
  let (lookup, text) := readLookup text
  let (flags, text) := readFlags {} text
  let (width, text) := readExtent .unset text
  let (precision, text) := readPrecision text
  match skipSize text with
  | [] => ({ lookup, flags, width, precision }, [])
  | c :: rest =>
      ({ lookup, flags, width, precision, conversion := some (c, length - rest.length - 1) }, rest)

end Directive

/-- The pieces of the end of a template of some length, read in at most so many steps. -/
def Piece.readFrom (length : Nat) : Nat → List Char → List Piece
  | 0, _ => []
  | _ + 1, [] => []
  | steps + 1, '%' :: '%' :: text => .plain '%' :: readFrom length steps text
  | steps + 1, '%' :: text =>
      let (found, rest) := Directive.read length text
      .directive found :: readFrom length steps rest
  | steps + 1, c :: text => .plain c :: readFrom length steps text

/-- The pieces of a template. -/
def Piece.ofTemplate (template : List Char) : List Piece :=
  Piece.readFrom template.length template.length template

/-- What an extent limits. -/
inductive Dimension where
  /-- The least number of characters. -/
  | width
  /-- The number of places, of digits or of characters kept. -/
  | precision
  deriving DecidableEq, Repr

namespace Dimension

/-- The greatest extent that can be asked for. -/
def limit : Dimension → Nat
  | width => Number.twoTo 63 - 1
  | precision => Number.twoTo 31 - 1

/-- How a dimension is named. -/
def text : Dimension → String
  | width => "width"
  | precision => "precision"

end Dimension

/-- Why a message cannot be made from a template and its arguments. -/
inductive TemplateError where
  /-- A directive has a name, and the arguments have none. -/
  | mappingRequired
  /-- No parenthesis closes a name. -/
  | unclosedName
  /-- No argument has the name. -/
  | missingName (name : String)
  /-- A name is looked up where only places can be. -/
  | namedInRow (found : String)
  /-- The template ends inside a directive. -/
  | incomplete
  /-- There are too few arguments. -/
  | notEnough
  /-- There are too many arguments. -/
  | leftOver
  /-- A width or precision is no whole number. -/
  | extentNotInteger
  /-- A width or precision in the template is too large. -/
  | extentTooBig (dimension : Dimension)
  /-- A width or precision among the arguments is too large. -/
  | extentTooLarge (dimension : Dimension)
  /-- A number is called for. -/
  | notNumber (conversion : Char) (found : String)
  /-- A whole number is called for. -/
  | notInteger (conversion : Char) (found : String)
  /-- A number is called for where places are shown. -/
  | notReal (found : String)
  /-- A whole number is out of the range of the double format. -/
  | tooLarge
  /-- A character is called for. -/
  | notCharacter
  /-- A number is no code point. -/
  | noCodePoint
  /-- No way of showing an argument has the letter. -/
  | unsupported (conversion : Char) (position : Nat)
  deriving DecidableEq, Repr

namespace TemplateError

/-- The error in words. -/
def message : TemplateError → String
  | mappingRequired => "format requires a mapping"
  | unclosedName => "incomplete format key"
  | missingName name => Text.quoted name
  | namedInRow found => found ++ " indices must be integers or slices, not str"
  | incomplete => "incomplete format"
  | notEnough => "not enough arguments for format string"
  | leftOver => "not all arguments converted during string formatting"
  | extentNotInteger => "* wants int"
  | extentTooBig dimension => dimension.text ++ " too big"
  | extentTooLarge dimension => dimension.text ++ " out of range"
  | notNumber conversion found =>
      "%" ++ String.singleton conversion ++ " format: a real number is required, not " ++ found
  | notInteger conversion found =>
      "%" ++ String.singleton conversion ++ " format: an integer is required, not " ++ found
  | notReal found => "must be real number, not " ++ found
  | tooLarge => "int too large to convert to float"
  | notCharacter => "%c requires int or char"
  | noCodePoint => "%c arg not in range(0x110000)"
  | unsupported conversion position =>
      let shown := if 31 ≤ conversion.toNat ∧ conversion.toNat ≤ 126 then conversion else '?'
      "unsupported format character '" ++ String.singleton shown ++ "' (0x"
        ++ String.ofList (Nat.toDigits 16 conversion.toNat) ++ ") at index " ++ toString position

end TemplateError

/-- The arguments of a template. -/
inductive Arguments where
  /-- None: the template is the message. -/
  | absent
  /-- Arguments to be used in order. -/
  | row (values : List Value)
  /-- One argument, in which names may be looked up. -/
  | single (value : Value)
  deriving Repr, Inhabited

namespace Arguments

/-- The arguments that a list of values stands for: none for the empty list, and one for a list
that holds nothing but named values. -/
def ofRow : List Value → Arguments
  | [] => absent
  | [.table (member :: members)] => single (.table (member :: members))
  | values => row values

/-- The arguments that a value stands for. -/
def ofValue (value : Value) : Arguments :=
  if value.isPresent then single value else absent

end Arguments

/-- The arguments that are left while a template is filled. -/
structure Supply where
  /-- Where names are looked up. -/
  names : Option Value
  /-- The arguments not used yet. -/
  left : List Value

namespace Supply

/-- Whether something can be looked up in a value, by a name or by a place. -/
def isIndexed : Value → Bool
  | .table _ | .list _ | .octets _ _ | .range _ _ => true
  | _ => false

/-- All of some arguments. -/
def ofArguments : Arguments → Supply
  | .absent => { names := none, left := [] }
  | .row values => { names := none, left := values }
  | .single value => { names := if isIndexed value then some value else none, left := [value] }

/-- What a value that has places calls itself when a name is looked up in it. -/
def placesName : Value → String
  | .octets false _ => "byte"
  | value => value.typeName

/-- The next argument, and the supply without it. -/
def next (supply : Supply) : Except TemplateError (Value × Supply) :=
  match supply.left with
  | [] => .error .notEnough
  | value :: left => .ok (value, { supply with left })

/-- The supply with the argument under a name alone. -/
def find (supply : Supply) (name : String) : Except TemplateError Supply :=
  match supply.names with
  | none => .error .mappingRequired
  | some (.table members) =>
      match members.lookup name with
      | some value => .ok { supply with left := [value] }
      | none => .error (.missingName name)
  | some value => .error (.namedInRow (placesName value))

/-- The supply that a directive takes its argument from. -/
def look (supply : Supply) : Lookup → Except TemplateError Supply
  | .next => .ok supply
  | .named name => supply.find name
  | .unclosed => .error (if supply.names.isSome then .unclosedName else .mappingRequired)

/-- The value of a width or precision. -/
def extent (supply : Supply) (dimension : Dimension) :
    Extent → Except TemplateError (Option Int × Supply)
  | .unset => .ok (none, supply)
  | .fixed value =>
      if value ≤ dimension.limit then .ok (some value, supply)
      else .error (.extentTooBig dimension)
  | .supplied =>
      match supply.next with
      | .error error => .error error
      | .ok (.int value, supply) =>
          if value ≤ dimension.limit ∧ -(dimension.limit : Int) - 1 ≤ value then
            .ok (some value, supply)
          else .error (.extentTooLarge dimension)
      | .ok (.bool value, supply) => .ok (some (if value then 1 else 0), supply)
      | .ok _ => .error .extentNotInteger

end Supply

/-- How an argument is laid out. -/
structure Frame where
  /-- The flags. -/
  flags : Flags
  /-- The least width. -/
  width : Nat
  /-- The precision. -/
  precision : Option Nat

namespace Frame

/-- A text in a frame, filled with blanks. -/
def place {α : Type} (frame : Frame) (blank : α) (text : List α) : List α :=
  let fill := List.replicate (frame.width - text.length) blank
  if frame.flags.left then text ++ fill else fill ++ text

/-- A text in a frame, no longer than the precision. -/
def placeText (frame : Frame) (text : List Char) : List Char :=
  frame.place ' ' <|
    match frame.precision with
    | some limit => text.take limit
    | none => text

/-- The sign of a number as it is written. -/
def sign (frame : Frame) (negative : Bool) : List Char :=
  if negative then ['-']
  else if frame.flags.plus then ['+']
  else if frame.flags.blank then [' ']
  else []

/-- A number in a frame: its sign, the mark of its base and its digits. -/
def placeNumber (frame : Frame) (negative : Bool) (base digits : List Char) : List Char :=
  let front := frame.sign negative ++ base
  if frame.flags.zero && !frame.flags.left then
    front ++ List.replicate (frame.width - front.length - digits.length) '0' ++ digits
  else frame.place ' ' (front ++ digits)

/-- A whole number in a frame. -/
def placeInteger (frame : Frame) (conversion : Char) (value : Int) : List Char :=
  let base := if conversion = 'o' then 8 else if conversion = 'x' ∨ conversion = 'X' then 16 else 10
  let plain := Nat.toDigits base value.natAbs
  let digits := if conversion = 'X' then plain.map Char.toUpper else plain
  let mark := if frame.flags.alternate && base != 10 then ['0', conversion] else []
  frame.placeNumber (value < 0) mark (Number.padZeros (frame.precision.getD 0) digits)

/-- A number of the double format in a frame. -/
def placeReal (frame : Frame) (conversion : Char) (x : Binary) : List Char :=
  let precision := frame.precision.getD 6
  let keep := frame.flags.alternate
  let mark := if conversion.isUpper then 'E' else 'e'
  let digits :=
    match conversion.toLower with
    | 'f' => Number.fixedPlaces keep precision x
    | 'e' => Number.scientific keep precision mark x
    | _ => Number.general keep precision mark x
  frame.placeNumber x.negative [] digits

end Frame

/-- The whole number that is shown for a value. -/
def wholeOf (conversion : Char) (value : Value) : Except TemplateError Int :=
  let exact := conversion = 'o' ∨ conversion = 'x' ∨ conversion = 'X'
  match value with
  | .int value => .ok value
  | .bool value => .ok (if value then 1 else 0)
  | .real value =>
      if exact then .error (.notInteger conversion "float")
      else .ok (Binary.ofDecimal value).truncate
  | value =>
      .error
        (if exact then .notInteger conversion value.typeName
        else .notNumber conversion value.typeName)

/-- The number of the double format that is shown for a value. -/
def realOf (value : Value) : Except TemplateError Binary :=
  let ofInt := fun (n : Int) =>
    match Binary.ofInt? n with
    | some x => .ok x
    | none => .error .tooLarge
  match value with
  | .int value => ofInt value
  | .bool value => ofInt (if value then 1 else 0)
  | .real value => .ok (Binary.ofDecimal value)
  | value => .error (.notReal value.typeName)

/-- A message: its characters, and nothing where a number was shown as a character that is only the
half of one. -/
abbrev Message : Type :=
  List (Option Char)

/-- The character of a code point, if it is not the half of one. -/
def charOf? (codePoint : Nat) : Option Char :=
  if h : codePoint.isValidChar then some (Char.ofNatAux codePoint h) else none

/-- The character that is shown for a value. -/
def characterOf (value : Value) : Except TemplateError (Option Char) :=
  let ofInt := fun (n : Int) =>
    if 0 ≤ n ∧ n < 0x110000 then .ok (charOf? n.toNat) else .error .noCodePoint
  match value with
  | .text value =>
      match value.toList with
      | [c] => .ok (some c)
      | _ => .error .notCharacter
  | .int value => ofInt value
  | .bool value => ofInt (if value then 1 else 0)
  | _ => .error .notCharacter

/-- A value as a directive shows it. -/
def showValue (frame : Frame) (conversion : Char) (position : Nat) (value : Value) :
    Except TemplateError Message :=
  let whole := fun (text : List Char) => text.map some
  match conversion with
  | 's' => .ok (whole (frame.placeText value.shown))
  | 'r' => .ok (whole (frame.placeText value.cited))
  | 'a' => .ok (whole (frame.placeText value.citedAscii))
  | 'd' | 'i' | 'u' | 'o' | 'x' | 'X' =>
      (wholeOf conversion value).map fun n => whole (frame.placeInteger conversion n)
  | 'e' | 'E' | 'f' | 'F' | 'g' | 'G' =>
      (realOf value).map fun x => whole (frame.placeReal conversion x)
  | 'c' => (characterOf value).map fun c => frame.place (some ' ') [c]
  | _ => .error (.unsupported conversion position)

/-- The frame of a width and a precision; a negative width puts blanks to the right. -/
def Frame.ofExtents (flags : Flags) (width precision : Option Int) : Frame :=
  let width := width.getD 0
  { flags := if width < 0 then { flags with left := true } else flags
    width := width.natAbs
    precision := precision.map Int.toNat }

/-- The text of a directive, and the supply after it. -/
def Directive.fill (directive : Directive) (supply : Supply) :
    Except TemplateError (Message × Supply) := do
  let supply ← supply.look directive.lookup
  let (width, supply) ← supply.extent .width directive.width
  let (precision, supply) ← supply.extent .precision directive.precision
  match directive.conversion with
  | none => .error .incomplete
  | some (conversion, position) =>
      let (value, supply) ← supply.next
      let frame := Frame.ofExtents directive.flags width precision
      let text ← showValue frame conversion position value
      if supply.names.isSome && !supply.left.isEmpty then .error .leftOver else .ok (text, supply)

/-- The text of pieces, given what is left of the arguments. -/
def fillAll (supply : Supply) : List Piece → Except TemplateError Message
  | [] => if supply.names.isNone && !supply.left.isEmpty then .error .leftOver else .ok []
  | .plain c :: pieces => (fillAll supply pieces).map (some c :: ·)
  | .directive directive :: pieces =>
      match directive.fill supply with
      | .error error => .error error
      | .ok (text, supply) => (fillAll supply pieces).map (text ++ ·)

/-- The message that a template makes of arguments. -/
def fillTemplate (template : List Char) (arguments : Arguments) :
    Except TemplateError Message :=
  match arguments with
  | .absent => .ok (template.map some)
  | arguments => fillAll (.ofArguments arguments) (Piece.ofTemplate template)

end Log
end SignatureSearch
