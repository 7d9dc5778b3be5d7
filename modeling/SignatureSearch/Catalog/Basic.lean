import SignatureSearch.Catalog.Batch
import SignatureSearch.Catalog.Slot

/-!
# The catalogue

The entries of all packages loaded so far, in the order of loading.  A package is added as a whole
and once; nothing is ever taken out.
-/

namespace SignatureSearch

/-- What the catalogue knows of a package apart from its entries. -/
structure Shelf where
  /-- The module that defines each name. -/
  names : Table String
  /-- The pages of its modules. -/
  pages : List Catalog.Page

/-- The entries of all packages loaded so far. -/
structure Catalog where
  /-- The entries in order, each with what has been worked out of its signature. -/
  slots : List Catalog.Slot
  /-- The packages in order. -/
  shelves : Table Shelf

namespace Catalog

/-- The catalogue without packages. -/
def empty : Catalog :=
  { slots := [], shelves := .empty }

instance : Inhabited Catalog := ⟨empty⟩

/-- The number of entries. -/
def size (catalog : Catalog) : Nat :=
  catalog.slots.length

/-- The entries in order. -/
def entries (catalog : Catalog) : List Entry :=
  catalog.slots.map Slot.entry

/-- The packages in the order of loading. -/
def packages (catalog : Catalog) : List String :=
  catalog.shelves.keys

/-- The names that a package defines, each with its module. -/
def names (catalog : Catalog) (package : String) : Table String :=
  ((catalog.shelves.get? package).map Shelf.names).getD .empty

/-- The pages of the modules of a package. -/
def pages (catalog : Catalog) (package : String) : List Page :=
  ((catalog.shelves.get? package).map Shelf.pages).getD []

/-- The module of a package that defines a name. -/
def linkTarget? (catalog : Catalog) (package name : String) : Option String :=
  (catalog.names package).get? name

/-- A package is in the catalogue already. -/
structure AlreadyIndexed where
  /-- The package. -/
  package : String
  deriving DecidableEq, Repr

namespace AlreadyIndexed

/-- The error in words. -/
def message (error : AlreadyIndexed) : String :=
  "Package already indexed: " ++ error.package

end AlreadyIndexed

/-- The slots of a batch: its signatures are worked out at once, or not at all. -/
def slotsOf (eager : Bool) (batch : Batch) : List Slot :=
  batch.entries.map fun entry =>
    if eager then (Slot.untouched entry).settle else Slot.untouched entry

/-- The catalogue with a batch added, its signatures worked out at once or not at all. -/
def add (catalog : Catalog) (batch : Batch) (eager : Bool) : Except AlreadyIndexed Catalog :=
  if catalog.shelves.contains batch.package then .error { package := batch.package }
  else
    .ok
      { slots := catalog.slots ++ slotsOf eager batch
        shelves :=
          catalog.shelves.put batch.package { names := batch.names, pages := batch.pages } }

end Catalog
end SignatureSearch
