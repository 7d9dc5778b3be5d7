import SignatureSearch.Docs.Module
import SignatureSearch.Json.Reader

/-!
# Documentation payloads

A package's documentation as a JSON text: a list of modules, each with its comment and with tables
of values, operators, aliases and unions.  Parts that the layout does not name are passed over.
-/

namespace SignatureSearch
namespace Docs

/-- A documented value or operator. -/
structure ValueDecl where
  /-- Its name. -/
  name : String
  /-- Its comment. -/
  comment : String
  /-- Its signature. -/
  type : String
  deriving DecidableEq, Repr

/-- A documented type alias. -/
structure AliasDecl where
  /-- Its name. -/
  name : String
  /-- Its comment. -/
  comment : String
  /-- Its parameters. -/
  args : List String
  /-- The type it stands for. -/
  type : String
  deriving DecidableEq, Repr

/-- A documented union type. -/
structure UnionDecl where
  /-- Its name. -/
  name : String
  /-- Its comment. -/
  comment : String
  /-- Its parameters. -/
  args : List String
  /-- Its constructors with their arguments. -/
  cases : List (String × List String)
  deriving DecidableEq, Repr

/-- A documented module as a payload lays it out. -/
structure ModuleDecl where
  /-- Its name. -/
  name : String
  /-- Its comment. -/
  comment : String
  /-- Its values. -/
  values : List ValueDecl
  /-- Its operators. -/
  binops : List ValueDecl
  /-- Its aliases. -/
  aliases : List AliasDecl
  /-- Its unions. -/
  unions : List UnionDecl
  deriving DecidableEq, Repr

/-! ### The layout -/

/-- A text. -/
def checkText : Json → Validated String
  | .string text => .ok text
  | _ => .fail .notText

/-- A list whose items pass a check. -/
def checkList {α : Type} (item : Json → Validated α) : Json → Validated (List α)
  | .array items => .all (items.map item)
  | _ => .fail .notList

/-- A constructor: its name and the list of its arguments. -/
def checkCase : Json → Validated (String × List String)
  | .array [] => .both (.under "0" (.fail .missing)) (.under "1" (.fail .missing))
  | .array [tag] => .both (.under "0" (checkText tag)) (.under "1" (.fail .missing))
  | .array [tag, args] => .both (.under "0" (checkText tag)) (.under "1" (checkList checkText args))
  | .array _ => .fail .tooLong
  | _ => .fail .notTuple

namespace ValueDecl

/-- A value or operator. -/
def check : Json → Validated ValueDecl
  | .object members => do
      let (name, comment, type) ←
        Validated.both (.part "name" none checkText (members.lookup "name"))
          (.both (.part "comment" (some "") checkText (members.lookup "comment"))
            (.part "type" none checkText (members.lookup "type")))
      return { name, comment, type }
  | _ => .fail .notRecord

end ValueDecl

namespace AliasDecl

/-- An alias. -/
def check : Json → Validated AliasDecl
  | .object members => do
      let (name, comment, args, type) ←
        Validated.both (.part "name" none checkText (members.lookup "name"))
          (.both (.part "comment" (some "") checkText (members.lookup "comment"))
            (.both (.part "args" (some []) (checkList checkText) (members.lookup "args"))
              (.part "type" none checkText (members.lookup "type"))))
      return { name, comment, args, type }
  | _ => .fail .notRecord

end AliasDecl

namespace UnionDecl

/-- A union. -/
def check : Json → Validated UnionDecl
  | .object members => do
      let (name, comment, args, cases) ←
        Validated.both (.part "name" none checkText (members.lookup "name"))
          (.both (.part "comment" (some "") checkText (members.lookup "comment"))
            (.both (.part "args" (some []) (checkList checkText) (members.lookup "args"))
              (.part "cases" (some []) (checkList checkCase) (members.lookup "cases"))))
      return { name, comment, args, cases }
  | _ => .fail .notRecord

end UnionDecl

namespace ModuleDecl

/-- A module. -/
def check : Json → Validated ModuleDecl
  | .object members => do
      let (name, comment, values, binops, aliases, unions) ←
        Validated.both (.part "name" none checkText (members.lookup "name"))
          (.both (.part "comment" (some "") checkText (members.lookup "comment"))
            (.both (.part "values" (some []) (checkList ValueDecl.check) (members.lookup "values"))
              (.both
                (.part "binops" (some []) (checkList ValueDecl.check) (members.lookup "binops"))
                (.both
                  (.part "aliases" (some []) (checkList AliasDecl.check)
                    (members.lookup "aliases"))
                  (.part "unions" (some []) (checkList UnionDecl.check)
                    (members.lookup "unions"))))))
      return { name, comment, values, binops, aliases, unions }
  | _ => .fail .notRecord

end ModuleDecl

/-! ### The entries -/

/-- A declaration with its comment under it, a blank line between. -/
def declarationDoc (header comment : String) : String :=
  if comment = "" then header else header ++ "\n\n" ++ comment

namespace AliasDecl

/-- The entry of an alias: the type it stands for, documented by its declaration. -/
def entry (decl : AliasDecl) : Entry :=
  { signature := decl.type
    doc :=
      declarationDoc
        (String.intercalate " " ("alias" :: decl.name :: decl.args ++ ["=", decl.type]))
        decl.comment }

end AliasDecl

/-- A constructor's argument, in parentheses when it has a blank and no bracket before it. -/
def caseArgument (arg : String) : String :=
  if ' ' ∈ arg.toList ∧ arg.toList.head? ≠ some '(' ∧ arg.toList.head? ≠ some '{' then
    "(" ++ arg ++ ")"
  else arg

/-- A constructor with its arguments. -/
def caseText (case : String × List String) : String :=
  String.intercalate " " (case.1 :: case.2.map caseArgument)

namespace UnionDecl

/-- A union with its parameters. -/
def signature (decl : UnionDecl) : String :=
  String.intercalate " " (decl.name :: decl.args)

/-- The declaration of a union. -/
def header (decl : UnionDecl) : String :=
  let head := "type " ++ decl.signature
  match decl.cases with
  | [] => head
  | cases => head ++ " = " ++ String.intercalate " | " (cases.map caseText)

/-- The entry of a union: the type itself, documented by its declaration. -/
def entry (decl : UnionDecl) : Entry :=
  { signature := decl.signature, doc := declarationDoc decl.header decl.comment }

end UnionDecl

namespace ValueDecl

/-- The name under which a value or operator is looked up: parentheses around it are left out. -/
def key (decl : ValueDecl) : String :=
  let name := decl.name.toList
  if name.head? = some '(' ∧ name.getLast? = some ')' then
    String.ofList (name.drop 1).dropLast
  else decl.name

/-- The entry of a value or operator. -/
def entry (decl : ValueDecl) : Entry :=
  { signature := decl.type, doc := decl.comment }

end ValueDecl

namespace ModuleDecl

/-- The entries of a module with their names, in the order in which they are put. -/
def rows (decl : ModuleDecl) : List (String × Entry) :=
  decl.aliases.map (fun decl => (decl.name, decl.entry))
    ++ decl.unions.map (fun decl => (decl.name, decl.entry))
    ++ (decl.values ++ decl.binops).map (fun decl => (decl.key, decl.entry))

/-- The documentation of a module. -/
def docs (decl : ModuleDecl) : Validated ModuleDocs :=
  ModuleDocs.check decl.name decl.comment (Table.ofRows decl.rows)

end ModuleDecl

/-- Why a payload holds no documentation. -/
inductive PayloadError where
  /-- It is no JSON text. -/
  | notJson
  /-- Its layout is another. -/
  | layout (issues : List Issue)
  /-- A module of it is refused. -/
  | refused (issues : List Issue)
  deriving DecidableEq, Repr

namespace PayloadError

/-- The error in words. -/
def message : PayloadError → String
  | notJson => "Invalid docs JSON"
  | layout issues =>
      "Unexpected docs layout: " ++ toString issues.length ++ " validation error(s)"
  | refused issues =>
      toString issues.length ++ " validation error" ++ (if issues.length = 1 then "" else "s")
        ++ " for RawModuleDocs"

end PayloadError

/-- The documentation of modules in order, up to the first that is refused. -/
def checkModules : List ModuleDecl → Validated (List ModuleDocs)
  | [] => .ok []
  | decl :: decls =>
      match decl.docs with
      | .error issues => .error issues
      | .ok docs =>
          match checkModules decls with
          | .error issues => .error issues
          | .ok more => .ok (docs :: more)

/-- The modules that a JSON value documents. -/
def ofJson (value : Json) : Except PayloadError (List ModuleDocs) :=
  match checkList ModuleDecl.check value with
  | .error issues => .error (.layout issues)
  | .ok decls =>
      match checkModules decls with
      | .error issues => .error (.refused issues)
      | .ok modules => .ok modules

/-- The modules that a payload documents. -/
def ofText (payload : String) : Except PayloadError (List ModuleDocs) :=
  match Json.read? payload with
  | none => .error .notJson
  | some value => ofJson value

/-- The modules that a payload of octets documents. -/
def ofOctets (payload : List UInt8) : Except PayloadError (List ModuleDocs) :=
  match Text.decodeStrict? payload with
  | none => .error .notJson
  | some text => ofText text

end Docs
end SignatureSearch
