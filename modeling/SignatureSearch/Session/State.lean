import SignatureSearch.Catalog.Basic
import SignatureSearch.Json.Value
import SignatureSearch.Log.Level
import SignatureSearch.Search.Ranking
import SignatureSearch.Search.Turns
import SignatureSearch.Settings.Basic

/-!
# Session state

What a search session holds: the catalogue, the counts of what happened, the messages written and
the spans finished.

It is assumed that there is one session.  The counters and the gauge belong to the process, and
start with the session; what they tell after a second one in the same process is left open here.
-/

namespace SignatureSearch

namespace Session

/-- The counts of the queries of one mode. -/
structure QueryCount where
  /-- Queries answered. -/
  ok : Nat := 0
  /-- Queries that failed. -/
  failed : Nat := 0
  /-- Queries timed. -/
  timed : Nat := 0
  deriving DecidableEq, Repr, Inhabited

/-- The counts of what happened in a session, the only one there is. -/
structure Tally where
  /-- Texts that had to stand for themselves because they are no signatures. -/
  parseFallbacks : Nat := 0
  /-- Queries for names. -/
  byName : QueryCount := {}
  /-- Queries for types. -/
  byType : QueryCount := {}
  /-- Packages whose loading was timed. -/
  loadsTimed : Nat := 0
  /-- Modules left out, by package. -/
  moduleFailures : Table Nat := .empty
  /-- The number of entries when a package was last added. -/
  indexedEntries : Nat := 0

namespace Tally

/-- The counts of the queries of a mode. -/
def queries (tally : Tally) : Search.Mode → QueryCount
  | .name => tally.byName
  | .type => tally.byType

/-- The tally with the counts of a mode changed. -/
def onQueries (tally : Tally) (change : QueryCount → QueryCount) : Search.Mode → Tally
  | .name => { tally with byName := change tally.byName }
  | .type => { tally with byType := change tally.byType }

/-- How many modules of a package have been left out. -/
def failuresOf (tally : Tally) (package : String) : Nat :=
  (tally.moduleFailures.get? package).getD 0

/-- The tally after modules of a package have been left out. -/
def leaveOut (tally : Tally) (package : String) (count : Nat) : Tally :=
  if count = 0 then tally
  else
    { tally with
      moduleFailures := tally.moduleFailures.put package (tally.failuresOf package + count) }

end Tally

/-- A stretch of work that has ended. -/
structure Span where
  /-- What was done. -/
  name : String
  /-- With what. -/
  attributes : List (String × Json)
  /-- Whether it ended in a failure. -/
  failed : Bool
  deriving Repr

end Session

/-- A search session. -/
structure Session where
  /-- The configuration. -/
  settings : Settings := {}
  /-- What has been loaded. -/
  catalog : Catalog := .empty
  /-- The tickets of queries that may overtake one another. -/
  turns : Search.Turns := {}
  /-- What has been counted. -/
  tally : Session.Tally := {}
  /-- The messages written, in order. -/
  notices : List Log.Notice := []
  /-- The spans finished, in order. -/
  spans : List Session.Span := []

namespace Session

/-- A session that has done nothing yet. -/
def start (settings : Settings) : Session :=
  { settings }

/-- The session after a message. -/
def note (session : Session) (severity : Log.Severity) (source : Log.Source) (message : String) :
    Session :=
  { session with notices := session.notices ++ [{ severity, source, message }] }

/-- The session after a span has ended. -/
def finish (session : Session) (name : String) (attributes : List (String × Json))
    (failed : Bool) : Session :=
  { session with spans := session.spans ++ [{ name, attributes, failed }] }

/-- The session after some texts have turned out to be no signatures. -/
def discover (session : Session) (errors : List Signature.SyntaxError) : Session :=
  let notices := errors.map fun error =>
    { severity := .debug, source := .parser
      message := "Falling back to raw variable: " ++ error.message : Log.Notice }
  { session with
    tally :=
      { session.tally with parseFallbacks := session.tally.parseFallbacks + errors.length }
    notices := session.notices ++ notices }

/-- The session after more has been worked out in the slots of its catalogue. -/
def keep (session : Session) (slots : List Catalog.Slot) : Session :=
  let discovered := session.discover (Catalog.discoveries session.catalog.slots slots)
  { discovered with catalog := { session.catalog with slots } }

end Session
end SignatureSearch
