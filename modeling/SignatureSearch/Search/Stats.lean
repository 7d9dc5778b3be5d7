import SignatureSearch.Search.Ranking
import SignatureSearch.Validation.Coercion

/-!
# Search statistics

What is told about a search apart from its results, and the checks on values given for it.
-/

namespace SignatureSearch
namespace Search

/-- What is told about a search. -/
structure Stats where
  /-- What was searched. -/
  mode : Mode
  /-- How many entries were looked at. -/
  candidates : Int
  /-- How many entries are given. -/
  found : Int
  deriving DecidableEq, Repr

namespace Mode

/-- The mode that a text writes. -/
def ofText? (written : String) : Option Mode :=
  [name, type].find? fun mode => mode.text == written

/-- A mode. -/
def check : Json → Validated Mode
  | .string written =>
      match ofText? written with
      | some mode => .ok mode
      | none => .fail .notListed
  | _ => .fail .notListed

end Mode

namespace Stats

/-- The statistics with given values, all of them checked; the time that a search took is checked
and not kept. -/
def check (given : String → Option Json) : Validated Stats :=
  let required := fun {α : Type} (name : String) (check : Json → Validated α) =>
    Validated.part name none check (given name)
  let checked :=
    Validated.both (required "mode" Mode.check)
      (.both (required "candidates" Validation.checkInteger)
        (.both (required "matches" Validation.checkInteger)
          (required "search_time" Validation.checkNumber)))
  checked.map fun (mode, candidates, found, _) => { mode, candidates, found }

end Stats
end Search
end SignatureSearch
