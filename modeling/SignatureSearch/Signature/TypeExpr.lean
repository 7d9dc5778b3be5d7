/-!
# Type expressions

The tree that a type signature denotes.  Arrows are kept as one parameter list with a final
result, a type constructor keeps the module that defines it apart from its own name, and a record
may extend a type variable.
-/

namespace SignatureSearch
namespace Signature

/-- The name of a type constructor together with the module that defines it. -/
structure QualifiedName where
  /-- The dotted path of the module, empty when the signature gives none. -/
  home : String
  /-- The name inside the module. -/
  name : String
  deriving DecidableEq, Repr, Inhabited

namespace QualifiedName

/-- A dotted path read as a module path and, after the last dot, a name. -/
def ofDotted (dotted : String) : QualifiedName :=
  let backwards := dotted.toList.reverse
  { home := String.ofList ((backwards.dropWhile (· ≠ '.')).drop 1).reverse
    name := String.ofList (backwards.takeWhile (· ≠ '.')).reverse }

/-- The name as a signature writes it, with its module when it has one. -/
def text (qualified : QualifiedName) : String :=
  if qualified.home = "" then qualified.name else qualified.home ++ "." ++ qualified.name

end QualifiedName

/-- A type expression. -/
inductive TypeExpr where
  /-- A function from its parameters, in order, to its result. -/
  | function (params : List TypeExpr) (result : TypeExpr)
  /-- A type variable. -/
  | var (name : String)
  /-- A type constructor with its arguments. -/
  | apply (head : QualifiedName) (args : List TypeExpr)
  /-- A tuple of its elements. -/
  | tuple (elements : List TypeExpr)
  /-- A record of its labelled fields, which may extend a type variable. -/
  | record (fields : List (String × TypeExpr)) (extension : Option String)
  /-- A text that stands where a type should. -/
  | foreign (text : String)
  deriving Repr, Inhabited

namespace TypeExpr

/-- The type with a single value. -/
def unit : TypeExpr :=
  apply { home := "", name := "()" } []

mutual

/-- Whether two type expressions are the same tree. -/
def same : TypeExpr → TypeExpr → Bool
  | function params result, function params' result' =>
      sameAll params params' && same result result'
  | var name, var name' => name == name'
  | apply head args, apply head' args' => head == head' && sameAll args args'
  | tuple elements, tuple elements' => sameAll elements elements'
  | record fields extension, record fields' extension' =>
      sameFields fields fields' && extension == extension'
  | foreign text, foreign text' => text == text'
  | _, _ => false

/-- Whether two lists hold the same trees in the same order. -/
def sameAll : List TypeExpr → List TypeExpr → Bool
  | [], [] => true
  | t :: ts, u :: us => same t u && sameAll ts us
  | _, _ => false

/-- Whether two field lists hold the same labels and trees in the same order. -/
def sameFields : List (String × TypeExpr) → List (String × TypeExpr) → Bool
  | [], [] => true
  | (label, t) :: ts, (label', u) :: us => label == label' && same t u && sameFields ts us
  | _, _ => false

end

mutual

theorem same_iff : (t u : TypeExpr) → (same t u = true ↔ t = u)
  | function params result, u => by
      cases u <;> simp [same, sameAll_iff params, same_iff result]
  | var name, u => by cases u <;> simp [same]
  | apply head args, u => by cases u <;> simp [same, sameAll_iff args]
  | tuple elements, u => by cases u <;> simp [same, sameAll_iff elements]
  | record fields extension, u => by cases u <;> simp [same, sameFields_iff fields]
  | foreign text, u => by cases u <;> simp [same]

theorem sameAll_iff : (ts us : List TypeExpr) → (sameAll ts us = true ↔ ts = us)
  | [], us => by cases us <;> simp [sameAll]
  | t :: ts, us => by cases us <;> simp [sameAll, same_iff t, sameAll_iff ts]

theorem sameFields_iff :
    (ts us : List (String × TypeExpr)) → (sameFields ts us = true ↔ ts = us)
  | [], us => by cases us <;> simp [sameFields]
  | (label, t) :: ts, us => by
      cases us <;> simp [sameFields, same_iff t, sameFields_iff ts, Prod.ext_iff]

end

instance : DecidableEq TypeExpr := fun t u => decidable_of_iff _ (same_iff t u)

/-- Whether a type expression is a function. -/
def isFunction : TypeExpr → Bool
  | function _ _ => true
  | _ => false

/-- The function from parameters to a result, with the parameters of a function result taken into
one list. -/
def arrows (params : List TypeExpr) : TypeExpr → TypeExpr
  | function more result => arrows (params ++ more) result
  | result => function params result

mutual

/-- The first text in a type expression that stands where a type should, read from the left. -/
def firstForeign? : TypeExpr → Option String
  | function params result => (firstForeignOf? params).or (firstForeign? result)
  | var _ => none
  | apply _ args => firstForeignOf? args
  | tuple elements => firstForeignOf? elements
  | record fields _ => firstForeignField? fields
  | foreign text => some text

/-- The first text among type expressions that stands where a type should. -/
def firstForeignOf? : List TypeExpr → Option String
  | [] => none
  | t :: ts => (firstForeign? t).or (firstForeignOf? ts)

/-- The first text among record fields that stands where a type should. -/
def firstForeignField? : List (String × TypeExpr) → Option String
  | [] => none
  | (_, t) :: ts => (firstForeign? t).or (firstForeignField? ts)

end

end TypeExpr
end Signature
end SignatureSearch
