import SignatureSearch.Table
import SignatureSearch.Validation.Issue

/-!
# Documented modules

What a package says about one of its modules: the comment, and the documented entries by name.
-/

namespace SignatureSearch
namespace Docs

/-- A documented value, alias, union or operator. -/
structure Entry where
  /-- The text of its type signature. -/
  signature : String
  /-- Its documentation. -/
  doc : String
  deriving DecidableEq, Repr, Inhabited

/-- The documentation of one module. -/
structure ModuleDocs where
  /-- The dotted name of the module. -/
  name : String
  /-- The comment of the module. -/
  comment : String
  /-- The entries by name, in the order of documentation. -/
  entries : Table Entry
  /-- A module has a name. -/
  named : name ≠ ""

namespace ModuleDocs

/-- The documentation of a module, refused when the module has no name. -/
def check (name comment : String) (entries : Table Entry) : Validated ModuleDocs :=
  if named : name = "" then .error [{ location := ["module_name"], kind := .textTooShort }]
  else .ok { name, comment, entries, named }

/-- Whether a module has an entry under a name. -/
def knows (docs : ModuleDocs) (name : String) : Bool :=
  docs.entries.contains name

end ModuleDocs
end Docs
end SignatureSearch
