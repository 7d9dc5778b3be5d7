import SignatureSearch.Text.Blank

/-!
# Decimal digits

The decimal digits of Unicode text, which come in runs of ten from zero to nine, and the whole
numbers that are written with them.
-/

namespace SignatureSearch
namespace Text

/-- The code points of the zeros, in increasing order. -/
def zeros : List Nat :=
  [0x30, 0x660, 0x6F0, 0x7C0, 0x966, 0x9E6, 0xA66, 0xAE6, 0xB66, 0xBE6, 0xC66, 0xCE6, 0xD66, 0xDE6,
    0xE50, 0xED0, 0xF20, 0x1040, 0x1090, 0x17E0, 0x1810, 0x1946, 0x19D0, 0x1A80, 0x1A90, 0x1B50,
    0x1BB0, 0x1C40, 0x1C50, 0xA620, 0xA8D0, 0xA900, 0xA9D0, 0xA9F0, 0xAA50, 0xABF0, 0xFF10,
    0x104A0, 0x10D30, 0x11066, 0x110F0, 0x11136, 0x111D0, 0x112F0, 0x11450, 0x114D0, 0x11650,
    0x116C0, 0x11730, 0x118E0, 0x11950, 0x11C50, 0x11D50, 0x11DA0, 0x16A60, 0x16AC0, 0x16B50,
    0x1D7CE, 0x1D7D8, 0x1D7E2, 0x1D7EC, 0x1D7F6, 0x1E140, 0x1E2F0, 0x1E950, 0x1FBF0]

/-- The value of a decimal digit. -/
def digitValue? (c : Char) : Option Nat :=
  (zeros.find? fun start => start ≤ c.toNat && c.toNat < start + 10).map (c.toNat - ·)

/-- Whether a character is a decimal digit. -/
def isDigit (c : Char) : Bool :=
  (digitValue? c).isSome

/-- The value of digits, each of which may follow an underscore, after digits of some value. -/
def readDigitsFrom (value : Nat) : List Char → Option Nat
  | [] => some value
  | '_' :: c :: rest => (digitValue? c).bind fun digit => readDigitsFrom (10 * value + digit) rest
  | c :: rest => (digitValue? c).bind fun digit => readDigitsFrom (10 * value + digit) rest

/-- The value of digits, of which single underscores may separate any two. -/
def readDigits? : List Char → Option Nat
  | [] => none
  | c :: rest => (digitValue? c).bind fun digit => readDigitsFrom digit rest

/-- The most digits of a whole number. -/
def longestNumber : Nat := 4300

/-- The whole number that a text writes, a sign before it and spaces around it. -/
def readInteger? (text : List Char) : Option Int :=
  let body := ((text.dropWhile isSpace).reverse.dropWhile isSpace).reverse
  if longestNumber < body.countP isDigit then none
  else
    match body with
    | '-' :: digits => (readDigits? digits).map fun value => -(value : Int)
    | '+' :: digits => (readDigits? digits).map Int.ofNat
    | digits => (readDigits? digits).map Int.ofNat

end Text
end SignatureSearch
