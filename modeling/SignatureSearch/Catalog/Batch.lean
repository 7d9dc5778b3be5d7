import SignatureSearch.Catalog.Entry
import SignatureSearch.Docs.Comment
import SignatureSearch.Docs.Module

/-!
# Package batches

All that one package adds to the catalogue, made before any of it is added.  A module whose comment
lists an entry that it does not have is left out as a whole.
-/

namespace SignatureSearch
namespace Catalog

/-- The documentation page of a module. -/
structure Page where
  /-- The module. -/
  module : String
  /-- What the page shows, in order. -/
  chunks : List Docs.Chunk
  deriving DecidableEq, Repr

/-- What a package adds to the catalogue. -/
structure Batch where
  /-- The package. -/
  package : String
  /-- Its entries, module by module. -/
  entries : List Entry
  /-- The module that defines each name, the last one where several do. -/
  names : Table String
  /-- The pages of its modules. -/
  pages : List Page
  /-- Why modules were left out. -/
  corruptions : List Docs.Corruption

namespace Batch

/-- The batch of a package without modules. -/
def empty (package : String) : Batch :=
  { package, entries := [], names := .empty, pages := [], corruptions := [] }

/-- The entries of a module. -/
def entriesOf (package : String) (docs : Docs.ModuleDocs) : List Entry :=
  docs.entries.rows.map fun (name, entry) =>
    { package, module := docs.name, name, signature := entry.signature, doc := entry.doc }

/-- The chunks of a module's comment. -/
def chunksOf (package : String) (docs : Docs.ModuleDocs) :
    Except Docs.Corruption (List Docs.Chunk) :=
  Docs.chunks docs.knows package docs.name docs.comment

/-- The batch with one more module. -/
def add (batch : Batch) (docs : Docs.ModuleDocs) : Batch :=
  match chunksOf batch.package docs with
  | .error corruption => { batch with corruptions := batch.corruptions ++ [corruption] }
  | .ok chunks =>
      { batch with
        entries := batch.entries ++ entriesOf batch.package docs
        names := docs.entries.keys.foldl (fun names name => names.put name docs.name) batch.names
        pages := batch.pages ++ [{ module := docs.name, chunks }] }

/-- The batch of a package with modules. -/
def ofModules (package : String) (modules : List Docs.ModuleDocs) : Batch :=
  modules.foldl add (empty package)

/-- The modules left out. -/
def failed (batch : Batch) : List String :=
  batch.corruptions.map Docs.Corruption.module

/-- The modules taken in. -/
def indexed (batch : Batch) : List String :=
  batch.pages.map Page.module

end Batch
end Catalog
end SignatureSearch
