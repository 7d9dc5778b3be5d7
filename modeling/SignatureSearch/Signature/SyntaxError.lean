import SignatureSearch.Signature.Token
import SignatureSearch.Text.Quoted

/-!
# Syntax errors

Why a text is no signature, and where in the text that shows.
-/

namespace SignatureSearch
namespace Signature

/-- What the grammar calls for at a place. -/
inductive Expectation where
  /-- One given mark. -/
  | mark (lexeme : Lexeme)
  /-- The end of the signature. -/
  | finish
  /-- A name. -/
  | name
  /-- The beginning of a type. -/
  | type
  deriving DecidableEq, Repr

namespace Expectation

/-- What is called for, in words. -/
def text : Expectation → String
  | mark lexeme => Text.quoted lexeme.text
  | finish => "end"
  | name => "ident"
  | type => "a type"

end Expectation

/-- Why a text is no signature. -/
inductive Fault where
  /-- No token starts with the character. -/
  | stray (character : Char)
  /-- The grammar calls for something else than the lexeme it meets. -/
  | expected (expectation : Expectation) (found : Lexeme)
  /-- A record label or extension is dotted or begins with a capital letter. -/
  | invalidLabel (label : String)
  /-- Arguments follow a type that is not a constructor without arguments. -/
  | argumentsRefused
  deriving DecidableEq, Repr

namespace Fault

/-- How a lexeme is cited when it is not what was called for. -/
def cite (found : Lexeme) : String :=
  Text.quoted (if found.text = "" then "end of input" else found.text)

/-- The fault in words. -/
def text : Fault → String
  | stray character => "Unexpected character " ++ Text.quoted (String.singleton character)
  | expected expectation found => "Expected " ++ expectation.text ++ ", found " ++ cite found
  | invalidLabel label => "Invalid record label " ++ Text.quoted label
  | argumentsRefused => "Only type constructors take arguments"

end Fault

/-- The message about a fault of a signature at a position. -/
def syntaxMessage (fault : String) (position : Int) (signature : String) : String :=
  fault ++ " at column " ++ toString position ++ " in " ++ Text.quoted signature

/-- A fault at a position of a signature. -/
structure SyntaxError where
  /-- What is wrong. -/
  fault : Fault
  /-- How many characters come before the place. -/
  position : Nat
  /-- The whole text. -/
  signature : String
  deriving DecidableEq, Repr

namespace SyntaxError

/-- The error in words. -/
def message (error : SyntaxError) : String :=
  syntaxMessage error.fault.text error.position error.signature

end SyntaxError
end Signature
end SignatureSearch
