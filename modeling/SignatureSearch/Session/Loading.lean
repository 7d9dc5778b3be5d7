import SignatureSearch.Session.State

/-!
# Loading packages

A package is loaded as a whole.  Its modules are looked through first, and those whose comments
list unknown entries are left out; then, if the session works signatures out at once, those of the
package are; and only then is a package refused that is there already.
-/

namespace SignatureSearch
namespace Session

open Catalog (Batch)

/-- What came of loading a package. -/
structure LoadReport where
  /-- The package. -/
  package : String
  /-- The number of its entries. -/
  entries : Nat
  /-- The modules taken in. -/
  indexed : List String
  /-- The modules left out. -/
  failed : List String
  deriving DecidableEq, Repr

namespace LoadReport

/-- Whether modules have been left out, in a word. -/
def status (report : LoadReport) : String :=
  if report.failed = [] then "ok" else "partial"

/-- The report on a batch that has been added. -/
def ofBatch (batch : Batch) : LoadReport :=
  { package := batch.package
    entries := batch.entries.length
    indexed := batch.indexed
    failed := batch.failed }

end LoadReport

/-- The message about a module left out. -/
def skipMessage (package : String) (corruption : Docs.Corruption) : String :=
  "Skipping module " ++ corruption.module ++ " of " ++ package ++ ": " ++ corruption.message

/-- The session after modules of a batch have been left out. -/
def leaveOut (session : Session) (batch : Batch) : Session :=
  let noted := batch.corruptions.foldl
    (fun session corruption => session.note .error .index (skipMessage batch.package corruption))
    session
  { noted with tally := noted.tally.leaveOut batch.package batch.corruptions.length }

/-- The message about a package that has been added. -/
def indexedMessage (batch : Batch) : String :=
  "Indexed package " ++ batch.package ++ ": " ++ toString batch.entries.length ++ " entries from "
    ++ toString batch.pages.length ++ " modules (" ++ toString batch.corruptions.length
    ++ " skipped)"

/-- The session after the signatures of a batch have been worked out, if loading does that. -/
def prepare (session : Session) (batch : Batch) : Session :=
  session.discover
    (Catalog.discoveries (Catalog.slotsOf false batch)
      (Catalog.slotsOf session.settings.eagerParse batch))

/-- Add a batch, unless its package is there already. -/
def add (session : Session) (batch : Batch) :
    Except Catalog.AlreadyIndexed LoadReport × Session :=
  let prepared := session.prepare batch
  match prepared.catalog.add batch prepared.settings.eagerParse with
  | .error refused => (.error refused, prepared)
  | .ok catalog =>
      let added :=
        { prepared with
          catalog
          tally := { prepared.tally with indexedEntries := catalog.size } }
      (.ok (.ofBatch batch), added.note .info .index (indexedMessage batch))

/-- Load the modules of a package. -/
def load (session : Session) (package : String) (modules : List Docs.ModuleDocs) :
    Except Catalog.AlreadyIndexed LoadReport × Session :=
  let batch := Batch.ofModules package modules
  match (session.leaveOut batch).add batch with
  | (result, after) =>
      let timed :=
        { after with tally := { after.tally with loadsTimed := after.tally.loadsTimed + 1 } }
      (result,
        timed.finish "type_search.load_package" [("package.id", .string package)]
          (match result with
          | .error _ => true
          | .ok _ => false))

end Session
end SignatureSearch
