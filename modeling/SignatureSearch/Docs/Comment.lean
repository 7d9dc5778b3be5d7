import SignatureSearch.Text.Blank
import SignatureSearch.Text.Occurrence
import SignatureSearch.Text.Quoted

/-!
# Module comments

A module comment is prose with directives in it.  A directive starts at a line with the docs marker
and lists names between commas; a line of the list that ends in a comma goes on in the next line.
An identifier is listed as it is and an operator in parentheses.  The list ends at the first part
that is no name, whose first word may still be the last name, and prose goes on after it.
-/

namespace SignatureSearch
namespace Docs

/-- What introduces a directive. -/
def marker : List Char :=
  "\n@docs ".toList

theorem marker_ne_nil : marker ≠ [] := by decide +kernel

/-- Whether a text is a name made of letters, digits, underscores and primes of ASCII. -/
def isIdentifier (token : List Char) : Bool :=
  !token.isEmpty && token.all fun c => c.isAlphanum || c == '_' || c == '\''

/-- Whether a text is an operator in parentheses: something inside, no letter or digit of ASCII. -/
def isOperator (token : List Char) : Bool :=
  token.length > 2 && token.head? == some '(' && token.getLast? == some ')'
    && !(token.drop 1).dropLast.any Char.isAlphanum

/-- The entry that a listed token names, if it names one. -/
def entryName? (token : List Char) : Option (List Char) :=
  if isIdentifier token then some token
  else if isOperator token then some (token.drop 1).dropLast
  else none

/-- Whether a line goes on in the next one. -/
def continues (line : List Char) : Bool :=
  (Text.trimRight line).getLast? == some ','

/-- A line joined with those of the lines after it in which it goes on, apart from the others. -/
def absorb (line : List Char) : List (List Char) → List Char × List (List Char)
  | [] => (line, [])
  | next :: lines =>
      if continues line then absorb (Text.trimRight line ++ ' ' :: Text.trim next) lines
      else (line, next :: lines)

/-- A directive whose first line has been joined with the lines in which it goes on. -/
def joinContinuations (block : List Char) : List Char :=
  let lines := Text.splitAt '\n' block
  let joined := absorb lines.1 lines.2
  Text.join ['\n'] (joined.1 :: joined.2)

/-- A piece of a comment. -/
inductive Piece where
  /-- Text to be read. -/
  | prose (text : String)
  /-- The name of an entry, in the place where the comment lists it. -/
  | mention (name : String)
  deriving DecidableEq, Repr

namespace Piece

/-- A text as prose, left out when it is blank. -/
def ofProse (text : List Char) : List Piece :=
  if Text.isAllBlank text then [] else [prose (String.ofList text)]

/-- The pieces of what stands after the last comma of a list of names. -/
def ofTail (text : List Char) : List Piece :=
  let tail := Text.trimLeft text
  let word := Text.firstWord tail
  match entryName? word with
  | some name => mention (String.ofList name) :: ofProse (tail.drop word.length)
  | none => ofProse tail

/-- The pieces of a list of names and the prose after it, given the parts between its commas. -/
def ofParts : List (List Char) → List Piece
  | [] => []
  | part :: parts =>
      match entryName? (Text.trim part) with
      | some name => mention (String.ofList name) :: ofParts parts
      | none => ofTail (Text.join [','] (part :: parts))

/-- The pieces of a directive, from after its marker to the next directive. -/
def ofDirective (block : List Char) : List Piece :=
  let parts := Text.splitAt ',' (joinContinuations block)
  ofParts (parts.1 :: parts.2)

/-- The pieces of a comment in the order of reading. -/
def ofComment (comment : String) : List Piece :=
  let blocks := Text.splitOn marker marker_ne_nil comment.toList
  ofProse blocks.1 ++ blocks.2.flatMap ofDirective

end Piece

/-- A part of a module's documentation page. -/
inductive Chunk where
  /-- Text to be read. -/
  | prose (text : String)
  /-- An entry of a package, in the place where the comment lists it. -/
  | entry (name package : String)
  deriving DecidableEq, Repr

/-- A comment lists an entry that its module does not have. -/
structure Corruption where
  /-- The name that the comment lists. -/
  entry : String
  /-- The module, empty when it is not known. -/
  module : String
  deriving DecidableEq, Repr

namespace Corruption

/-- The error in words. -/
def message (error : Corruption) : String :=
  "docs have been corrupted, could not find " ++ Text.quoted error.entry
    ++ if error.module = "" then "" else " in module " ++ error.module

end Corruption

/-- The chunk that a piece becomes when a mentioned entry has to be known. -/
def resolve (known : String → Bool) (package module : String) :
    Piece → Except Corruption Chunk
  | .prose text => .ok (.prose text)
  | .mention name =>
      if known name then .ok (.entry name package) else .error { entry := name, module }

/-- The chunks that pieces become when every mentioned entry has to be known. -/
def resolveAll (known : String → Bool) (package module : String) :
    List Piece → Except Corruption (List Chunk)
  | [] => .ok []
  | piece :: pieces =>
      match resolve known package module piece with
      | .error error => .error error
      | .ok chunk =>
          match resolveAll known package module pieces with
          | .error error => .error error
          | .ok chunks => .ok (chunk :: chunks)

/-- The chunks of a comment whose mentioned entries have to be known. -/
def chunks (known : String → Bool) (package module comment : String) :
    Except Corruption (List Chunk) :=
  resolveAll known package module (Piece.ofComment comment)

end Docs
end SignatureSearch
