import SignatureSearch.Signature.Printer
import SignatureSearch.Table

/-!
# Canonical variable names

Two signatures that differ only in how their authors named type variables have one canonical form:
the variables are renamed in order of first appearance to `a`, `b`, …, `z`, `aa`, `bb`, …, `zz`,
`aaa`, ….  A label repeats one letter.  The class names `number` and `comparable` keep their
meaning and their name, and so does the variable that a record extends.
-/

namespace SignatureSearch
namespace Signature

/-- Variable names that stand for a class of types. -/
def reservedNames : List String :=
  ["number", "comparable"]

/-- The label of the `k`-th variable, counted from zero. -/
def canonicalLabel (k : Int) : String :=
  String.ofList (List.replicate (k / 26 + 1).toNat (Char.ofNat ('a'.toNat + (k % 26).toNat)))

namespace TypeExpr

mutual

/-- The variable names of a type in order of appearance, with repeats. -/
def freeVariables : TypeExpr → List String
  | function params result => freeVariablesOf params ++ freeVariables result
  | var name => [name]
  | apply _ args => freeVariablesOf args
  | tuple elements => freeVariablesOf elements
  | record fields _ => freeVariablesOfFields fields
  | foreign _ => []

/-- The variable names of types in order of appearance, with repeats. -/
def freeVariablesOf : List TypeExpr → List String
  | [] => []
  | t :: ts => freeVariables t ++ freeVariablesOf ts

/-- The variable names of record fields in order of appearance, with repeats. -/
def freeVariablesOfFields : List (String × TypeExpr) → List String
  | [] => []
  | (_, t) :: ts => freeVariables t ++ freeVariablesOfFields ts

end

mutual

/-- The type with every variable name passed through a function. -/
def renameWith (f : String → String) : TypeExpr → TypeExpr
  | function params result => function (renameAllWith f params) (renameWith f result)
  | var name => var (f name)
  | apply head args => apply head (renameAllWith f args)
  | tuple elements => tuple (renameAllWith f elements)
  | record fields extension => record (renameFieldsWith f fields) extension
  | foreign text => foreign text

/-- The types with every variable name passed through a function. -/
def renameAllWith (f : String → String) : List TypeExpr → List TypeExpr
  | [] => []
  | t :: ts => renameWith f t :: renameAllWith f ts

/-- The fields with every variable name passed through a function. -/
def renameFieldsWith (f : String → String) : List (String × TypeExpr) → List (String × TypeExpr)
  | [] => []
  | (label, t) :: ts => (label, renameWith f t) :: renameFieldsWith f ts

end

end TypeExpr

/-- New names for variables, in the order in which the variables were met. -/
abbrev Renaming : Type :=
  List (String × String)

namespace Renaming

/-- The new name of a variable; a variable without one keeps its name. -/
def apply (mapping : Renaming) (name : String) : String :=
  (mapping.lookup name).getD name

/-- The renaming that leaves the reserved names alone and names nothing else. -/
def reserved : Renaming :=
  reservedNames.map fun name => (name, name)

/-- A renaming extended to further variables; `next` variables have been given a label before. -/
def extend (mapping : Renaming) (next : Nat) : List String → Renaming
  | [] => mapping
  | name :: names =>
      if (mapping.lookup name).isSome then extend mapping next names
      else extend (mapping ++ [(name, canonicalLabel next)]) (next + 1) names

/-- The renaming to labels in order of first appearance. -/
def canonical (type : TypeExpr) : Renaming :=
  extend reserved 0 type.freeVariables

end Renaming

namespace TypeExpr

/-- The type with its variables renamed. -/
def renamed (mapping : Renaming) (type : TypeExpr) : TypeExpr :=
  type.renameWith mapping.apply

/-- The type with its variables renamed to labels. -/
def canonical (type : TypeExpr) : TypeExpr :=
  type.renamed (Renaming.canonical type)

/-- The renamed form of a type expression in which a type stands at every place. -/
def rename (mapping : Renaming) (type : TypeExpr) : Except NotAType TypeExpr :=
  (checked type).map (renamed mapping)

/-- The canonical form of a type expression in which a type stands at every place. -/
def normalize (type : TypeExpr) : Except NotAType TypeExpr :=
  (checked type).map canonical

end TypeExpr
end Signature
end SignatureSearch
