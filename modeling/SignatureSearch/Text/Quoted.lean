import SignatureSearch.Text.Printable

/-!
# Quoted text

How a message shows a text that it cites: between quote marks, with a backslash before what could
be misread.  The mark is the apostrophe, unless the text holds an apostrophe and no double quote.
A character that cannot be shown is written by its code point in as few of two, four or eight
hexadecimal digits as hold it.
-/

namespace SignatureSearch
namespace Text

/-- The hexadecimal digits of a number, with zeros in front up to a width. -/
def hexadecimal (width n : Nat) : List Char :=
  let digits := Nat.toDigits 16 n
  List.replicate (width - digits.length) '0' ++ digits

/-- An unshowable character written by its code point. -/
def escapeCodePoint (n : Nat) : List Char :=
  if n < 0x100 then '\\' :: 'x' :: hexadecimal 2 n
  else if n < 0x10000 then '\\' :: 'u' :: hexadecimal 4 n
  else '\\' :: 'U' :: hexadecimal 8 n

/-- One character as it stands between two given quote marks. -/
def escapeChar (mark c : Char) : List Char :=
  if c = mark ∨ c = '\\' then ['\\', c]
  else if c = '\n' then ['\\', 'n']
  else if c = '\r' then ['\\', 'r']
  else if c = '\t' then ['\\', 't']
  else if isPrintable c then [c]
  else escapeCodePoint c.toNat

/-- The quote mark for a text. -/
def quoteMark (text : List Char) : Char :=
  if '\'' ∈ text ∧ '"' ∉ text then '"' else '\''

/-- A text as a message cites it. -/
def quoteChars (text : List Char) : List Char :=
  let mark := quoteMark text
  mark :: text.flatMap (escapeChar mark) ++ [mark]

/-- A text as a message cites it. -/
def quoted (text : String) : String :=
  String.ofList (quoteChars text.toList)

end Text
end SignatureSearch
