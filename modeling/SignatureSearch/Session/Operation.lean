import SignatureSearch.Session.Loading
import SignatureSearch.Session.Querying

/-!
# Operations of a session

What a session can be asked to do, one step after another, and what it answers.
-/

namespace SignatureSearch
namespace Session

/-- Something a session can be asked to do. -/
inductive Operation where
  /-- Load the modules of a package. -/
  | load (package : String) (modules : List Docs.ModuleDocs)
  /-- Answer a query. -/
  | search (limit : Option Int) (query : String)
  /-- Answer the last of queries that are started together. -/
  | searchLatest (limit : Option Int) (queries : List String)
  /-- Rank a query without a configured limit. -/
  | rank (includeTypes : Bool) (limit : Option Int) (query : String)
  /-- Work out the canonical form of every entry. -/
  | warm
  /-- Look at every entry. -/
  | inspect
  /-- Tell the number of entries. -/
  | size
  /-- List the packages. -/
  | packages
  /-- List the names of a package with their modules. -/
  | names (package : String)
  /-- Find the module that defines a name of a package. -/
  | link (package name : String)
  /-- Give the pages of a package. -/
  | pages (package : String)
  /-- Tell of which entries the canonical form is known. -/
  | cached
  /-- Give the counts. -/
  | tally

/-- What a session answers. -/
inductive Answer where
  /-- What came of loading a package. -/
  | loaded (result : Except Catalog.AlreadyIndexed LoadReport)
  /-- The answer to a query. -/
  | found (result : Except Signature.TypeExpr.NotAType Response)
  /-- The answers to queries started together. -/
  | foundLatest (result : Except Signature.TypeExpr.NotAType (List (Option Response)))
  /-- The ranking of a query. -/
  | ranked (result : Except Signature.TypeExpr.NotAType Ranking)
  /-- How many entries were worked out. -/
  | warmed (count : Nat)
  /-- What the entries show. -/
  | inspected (views : List Catalog.View)
  /-- The number of entries. -/
  | size (count : Nat)
  /-- The packages. -/
  | packages (packages : List String)
  /-- Names with their modules. -/
  | names (names : List (String × String))
  /-- The module that defines a name. -/
  | link (module : Option String)
  /-- The pages of a package. -/
  | pages (pages : List Catalog.Page)
  /-- Of which entries the canonical form is known. -/
  | cached (known : List Bool)
  /-- The counts. -/
  | tally (tally : Tally)

/-- Do one thing. -/
def perform (session : Session) : Operation → Answer × Session
  | .load package modules =>
      match session.load package modules with
      | (result, session) => (.loaded result, session)
  | .search limit query =>
      match session.search limit query with
      | (result, session) => (.found result, session)
  | .searchLatest limit queries =>
      match session.searchLatest limit queries with
      | (result, session) => (.foundLatest result, session)
  | .rank includeTypes limit query =>
      match session.rank includeTypes limit query with
      | (result, session) => (.ranked result, session)
  | .warm =>
      match session.warm with
      | (count, session) => (.warmed count, session)
  | .inspect =>
      match session.inspect with
      | (views, session) => (.inspected views, session)
  | .size => (.size session.catalog.size, session)
  | .packages => (.packages session.catalog.packages, session)
  | .names package => (.names (session.catalog.names package).rows, session)
  | .link package name => (.link (session.catalog.linkTarget? package name), session)
  | .pages package => (.pages (session.catalog.pages package), session)
  | .cached => (.cached session.cached, session)
  | .tally => (.tally session.tally, session)

/-- Do one thing after another. -/
def performAll (session : Session) : List Operation → List Answer × Session
  | [] => ([], session)
  | operation :: operations =>
      match session.perform operation with
      | (answer, session) =>
          match session.performAll operations with
          | (answers, session) => (answer :: answers, session)

end Session
end SignatureSearch
