import SignatureSearch.Search.Lookup
import SignatureSearch.Session.State

/-!
# Running queries

A query is ranked against all entries loaded so far and then cut to its limit.  Ranking works out
as much of the signatures as it looks at, and showing a result works out the canonical form that is
shown.
-/

namespace SignatureSearch
namespace Session

open Search (Match Mode)
open Signature (TypeExpr)

/-- What a query found. -/
structure Ranking where
  /-- The query. -/
  query : String
  /-- What it searched. -/
  mode : Mode
  /-- The entries that answer it, as many as the limit allows. -/
  found : List Match
  /-- How many entries were looked at. -/
  candidates : Nat
  deriving DecidableEq, Repr

/-- The message about a query that has been ranked. -/
def rankedMessage (ranking : Ranking) : String :=
  "Ranked " ++ Text.quoted ranking.query ++ " as " ++ ranking.mode.text ++ " search: "
    ++ toString ranking.found.length ++ " of " ++ toString ranking.candidates
    ++ " entries in <t>s"

/-- The name of the span in which a query is ranked. -/
def rankSpan : String :=
  "type_search.rank"

/-- Rank a query and cut the answer to a limit. -/
def rank (session : Session) (includeTypes : Bool) (limit : Option Int) (query : String) :
    Except TypeExpr.NotAType Ranking × Session :=
  let outcome := Signature.outcome query
  let read := session.discover outcome.error?.toList
  let mode := Search.classify outcome.type
  let candidates := session.catalog.size
  let attributes :=
    [("search.mode", Json.string mode.text), ("search.candidates", .int candidates)]
  match Search.lookup includeTypes outcome.type session.catalog.slots with
  | .error error =>
      let failed := read.finish rankSpan attributes true
      (.error error,
        { failed with
          tally := failed.tally.onQueries (fun count => { count with failed := count.failed + 1 })
            mode })
  | .ok (found, slots) =>
      let ranked := (read.keep slots).finish rankSpan attributes false
      let ranking := { query, mode, found := Search.cut limit found, candidates : Ranking }
      let counted :=
        { ranked with
          tally := ranked.tally.onQueries
            (fun count => { count with ok := count.ok + 1, timed := count.timed + 1 }) mode }
      (.ok ranking, counted.note .debug .query (rankedMessage ranking))

/-- A result as it is shown. -/
structure Result where
  /-- The entry. -/
  entry : Catalog.Entry
  /-- The canonical form of its type. -/
  normalizedSignature : String
  /-- How similar its type is to the query, when types are searched. -/
  score : Option Nat
  deriving DecidableEq, Repr

/-- The answer to a query as it is shown. -/
structure Response where
  /-- The query. -/
  query : String
  /-- The results in order. -/
  results : List Result
  /-- What was searched. -/
  mode : Mode
  /-- How many entries were looked at. -/
  candidates : Nat
  deriving DecidableEq, Repr

/-- The slot of a match; an entry that is not in the catalogue stands by itself. -/
def slotOf (slots : List Catalog.Slot) (found : Match) : Catalog.Slot :=
  slots[found.position]?.getD (.untouched found.entry)

/-- Show matches as results in order, and keep what it took. -/
def showAll (slots : List Catalog.Slot) : List Match → List Result × List Catalog.Slot
  | [] => ([], slots)
  | found :: others =>
      match (slotOf slots found).readNormalized with
      | (type, slot) =>
          let result :=
            { entry := found.entry, normalizedSignature := type.text .bare, score := found.score }
          match showAll (slots.set found.position slot) others with
          | (results, slots) => (result :: results, slots)

/-- Show what a query found. -/
def present (session : Session) (ranking : Ranking) : Response × Session :=
  match showAll session.catalog.slots ranking.found with
  | (results, slots) =>
      ({ query := ranking.query, results, mode := ranking.mode, candidates := ranking.candidates },
        session.keep slots)

/-- The limit of a query: its own, else the configured one. -/
def limitOf (session : Session) (limit : Option Int) : Option Int :=
  some (limit.getD session.settings.maxResults.1)

/-- Rank a query as the session is configured. -/
def rankConfigured (session : Session) (limit : Option Int) (query : String) :
    Except TypeExpr.NotAType Ranking × Session :=
  session.rank session.settings.nameSearchIncludesTypes (session.limitOf limit) query

/-- Answer a query. -/
def search (session : Session) (limit : Option Int) (query : String) :
    Except TypeExpr.NotAType Response × Session :=
  match session.rankConfigured limit query with
  | (.error error, session) => (.error error, session)
  | (.ok ranking, session) =>
      match session.present ranking with
      | (response, session) => (.ok response, session)

/-- Rank queries in order, each under its ticket. -/
def rankAll (session : Session) (limit : Option Int) :
    List (Nat × String) → Except TypeExpr.NotAType (List (Nat × Ranking)) × Session
  | [] => (.ok [], session)
  | (ticket, query) :: queries =>
      match session.rankConfigured limit query with
      | (.error error, session) => (.error error, session)
      | (.ok ranking, session) =>
          match session.rankAll limit queries with
          | (.error error, session) => (.error error, session)
          | (.ok rankings, session) => (.ok ((ticket, ranking) :: rankings), session)

/-- The message about a ranking that comes too late. -/
def staleMessage (ranking : Ranking) : String :=
  "Dropping stale ranking for " ++ Text.quoted ranking.query

/-- Show the ranking whose ticket counts, and drop the others. -/
def presentLatest (session : Session) : List (Nat × Ranking) → List (Option Response) × Session
  | [] => ([], session)
  | (ticket, ranking) :: rankings =>
      if session.turns.counts ticket then
        match session.present ranking with
        | (response, session) =>
            match session.presentLatest rankings with
            | (responses, session) => (some response :: responses, session)
      else
        match (session.note .debug .query (staleMessage ranking)).presentLatest rankings with
        | (responses, session) => (none :: responses, session)

/-- Answer queries that are started together: only the one started last is answered. -/
def searchLatest (session : Session) (limit : Option Int) (queries : List String) :
    Except TypeExpr.NotAType (List (Option Response)) × Session :=
  match session.turns.startAll queries with
  | (tickets, turns) =>
      match { session with turns }.rankAll limit tickets with
      | (.error error, session) => (.error error, session)
      | (.ok rankings, session) =>
          match session.presentLatest rankings with
          | (responses, session) => (.ok responses, session)

/-- Work out the canonical form of every entry. -/
def warm (session : Session) : Nat × Session :=
  (session.catalog.size, session.keep (session.catalog.slots.map Catalog.Slot.settle))

/-- Whether the canonical form of each entry is known. -/
def cached (session : Session) : List Bool :=
  session.catalog.slots.map Catalog.Slot.isNormalized

/-- Look at every entry. -/
def inspect (session : Session) : List Catalog.View × Session :=
  let viewed := session.catalog.slots.map Catalog.Slot.view
  (viewed.map Prod.fst, session.keep (viewed.map Prod.snd))

end Session
end SignatureSearch
