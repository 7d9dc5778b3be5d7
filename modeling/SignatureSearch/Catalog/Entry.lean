import SignatureSearch.Signature.Canonical
import SignatureSearch.Signature.Parser

/-!
# Catalogued entries

A documented entry as it is searched, and what its signature amounts to: the type that it stands
for, the canonical form of that type, and the type as it is shown.  A signature that cannot be
parsed stands for itself in both forms.
-/

namespace SignatureSearch
namespace Catalog

/-- A documented entry of a module of a package. -/
structure Entry where
  /-- The package. -/
  package : String
  /-- The module. -/
  module : String
  /-- The name inside the module. -/
  name : String
  /-- The text of the type signature. -/
  signature : String
  /-- The documentation. -/
  doc : String
  deriving DecidableEq, Repr, Inhabited

namespace Entry

/-- The type that the signature stands for. -/
def parsed (entry : Entry) : Signature.TypeExpr :=
  Signature.parse entry.signature

/-- Whether the signature had to stand for itself. -/
def isFallback (entry : Entry) : Bool :=
  (Signature.outcome entry.signature).isFallback

/-- The canonical form of the type; a signature that stands for itself is left as it is. -/
def normalized (entry : Entry) : Signature.TypeExpr :=
  let outcome := Signature.outcome entry.signature
  if outcome.isFallback then outcome.type else outcome.type.canonical

/-- The type as it is shown, without modules. -/
def typeText (entry : Entry) : String :=
  entry.parsed.text .bare

/-- The canonical form as it is shown, without modules. -/
def normalizedText (entry : Entry) : String :=
  entry.normalized.text .bare

end Entry

end Catalog
end SignatureSearch
