import SignatureSearch.Proofs.Session.Reachable

/-!
# A package that is there already

A package is refused only after its modules have been looked through and, if that is asked for, its
signatures worked out.  None of that shows: the session holds what it held, has counted the entries
that it had, and answers whatever it is asked from then on as if it had not been given the package.

It is assumed that there is no other session, whose entries would be counted too, and that a batch
has entries of its own, so that what is worked out of these is nothing that the session holds.
-/

namespace SignatureSearch
namespace Session

open Catalog (Batch)

/-- A session that works signatures out on loading, or does not. -/
def eagerly (session : Session) (eager : Bool) : Session :=
  { session with settings := { session.settings with eagerParse := eager } }

end Session
end SignatureSearch
