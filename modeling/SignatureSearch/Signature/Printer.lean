import SignatureSearch.Signature.TypeExpr
import SignatureSearch.Text.Quoted

/-!
# Writing signatures

The signature text of a type expression.  A function is put in parentheses where it is a parameter
or an argument, and a constructor with arguments where it is an argument; nothing else is.
-/

namespace SignatureSearch
namespace Signature
namespace TypeExpr

/-- How much of a constructor's name is written. -/
inductive Naming where
  /-- The name alone. -/
  | bare
  /-- The name after the module that defines it. -/
  | qualified
  deriving DecidableEq, Repr

namespace Naming

/-- A constructor's name as it is written. -/
def text : Naming → QualifiedName → String
  | bare, head => head.name
  | qualified, head => head.text

end Naming

/-- Whether a type is put in parentheses where it is an argument. -/
def isCompound : TypeExpr → Bool
  | function _ _ => true
  | apply _ (_ :: _) => true
  | _ => false

/-- A text, in parentheses if need be. -/
def parenthesized (needed : Bool) (text : String) : String :=
  if needed then "(" ++ text ++ ")" else text

mutual

/-- The signature text of a type; a text that stands where a type should is left as it is. -/
def text (naming : Naming) : TypeExpr → String
  | function params result =>
      String.intercalate " -> " (paramTexts naming params ++ [text naming result])
  | var name => name
  | apply head args => String.intercalate " " (naming.text head :: argTexts naming args)
  | tuple elements => "( " ++ String.intercalate ", " (texts naming elements) ++ " )"
  | record [] _ => "\x7b\x7d"
  | record (field :: fields) extension =>
      let body := String.intercalate ", " (fieldTexts naming (field :: fields))
      match extension with
      | none | some "" => "\x7b " ++ body ++ " \x7d"
      | some extension => "\x7b " ++ extension ++ " | " ++ body ++ " \x7d"
  | foreign text => text

/-- The texts of the parameters of a function. -/
def paramTexts (naming : Naming) : List TypeExpr → List String
  | [] => []
  | t :: ts => parenthesized t.isFunction (text naming t) :: paramTexts naming ts

/-- The texts of the arguments of a constructor. -/
def argTexts (naming : Naming) : List TypeExpr → List String
  | [] => []
  | t :: ts => parenthesized t.isCompound (text naming t) :: argTexts naming ts

/-- The texts of types one after another. -/
def texts (naming : Naming) : List TypeExpr → List String
  | [] => []
  | t :: ts => text naming t :: texts naming ts

/-- The texts of the fields of a record. -/
def fieldTexts (naming : Naming) : List (String × TypeExpr) → List String
  | [] => []
  | (label, t) :: ts => (label ++ " : " ++ text naming t) :: fieldTexts naming ts

end

/-- A text stands where a type should. -/
structure NotAType where
  /-- The text. -/
  text : String
  deriving DecidableEq, Repr

namespace NotAType

/-- The error in words. -/
def message (error : NotAType) : String :=
  "Not a type: " ++ Text.quoted error.text

end NotAType

/-- A type expression in which a type stands at every place. -/
def checked (type : TypeExpr) : Except NotAType TypeExpr :=
  match type.firstForeign? with
  | some text => .error { text }
  | none => .ok type

/-- The signature text of a type expression in which a type stands at every place. -/
def render (naming : Naming) (type : TypeExpr) : Except NotAType String :=
  (checked type).map (text naming)

end TypeExpr
end Signature
end SignatureSearch
