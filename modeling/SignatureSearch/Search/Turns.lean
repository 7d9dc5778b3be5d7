/-!
# Taking turns

Queries that are started while others are still running.  Each query draws a ticket when it starts;
when it is done, its answer counts only if no later ticket has been drawn.
-/

namespace SignatureSearch
namespace Search

/-- The tickets drawn so far. -/
structure Turns where
  /-- How many have been drawn. -/
  drawn : Nat := 0
  /-- The ticket drawn last, zero before the first. -/
  latest : Nat := 0
  deriving DecidableEq, Repr, Inhabited

namespace Turns

/-- A ticket for a query that starts, and the tickets drawn after that. -/
def start (turns : Turns) : Nat × Turns :=
  (turns.drawn + 1, { drawn := turns.drawn + 1, latest := turns.drawn + 1 })

/-- Whether the query with a ticket is the one started last. -/
def counts (turns : Turns) (ticket : Nat) : Bool :=
  ticket == turns.latest

/-- Tickets for queries that start one after another. -/
def startAll {α : Type} (turns : Turns) : List α → List (Nat × α) × Turns
  | [] => ([], turns)
  | query :: queries =>
      match turns.start with
      | (ticket, turns) =>
          match turns.startAll queries with
          | (tickets, turns) => ((ticket, query) :: tickets, turns)

end Turns
end Search
end SignatureSearch
