import SignatureSearch.Metric.Bridge
import SignatureSearch.Session.State

/-!
# Exposition of metrics

The metrics of a session as a text to be scraped: for each family what it measures and of which kind
it is, and a line for each series.
-/

namespace SignatureSearch
namespace Metric

/-- A family of series. -/
structure Family where
  /-- Its name. -/
  name : String
  /-- Its kind. -/
  kind : Kind
  /-- What it measures. -/
  description : String
  deriving DecidableEq, Repr

/-- How long ranking takes. -/
def latency : Family :=
  { name := "type_search_latency_seconds"
    kind := .histogram
    description := "Ranking latency in seconds" }

/-- How many queries have been ranked. -/
def queries : Family :=
  { name := "type_search_queries_total"
    kind := .counter
    description := "Total ranked queries" }

/-- How many entries there are. -/
def indexEntries : Family :=
  { name := "type_search_index_entries"
    kind := .gauge
    description := "Entries in the search index" }

/-- How many texts are no signatures. -/
def parseFallbacks : Family :=
  { name := "type_search_parse_fallbacks_total"
    kind := .counter
    description := "Signatures that degraded to a raw variable" }

/-- How many modules have been left out. -/
def moduleFailures : Family :=
  { name := "type_search_index_module_failures_total"
    kind := .counter
    description := "Modules skipped because their @docs list names a missing entry" }

/-- How long loading a package takes. -/
def packageLoad : Family :=
  { name := "type_search_package_load_seconds"
    kind := .histogram
    description := "Time to extract chunks and append one package to the index" }

/-- One character inside the value of a label. -/
def escapeLabel (c : Char) : List Char :=
  if c = '"' ∨ c = '\\' then ['\\', c] else if c = '\n' then ['\\', 'n'] else [c]

/-- A label with its value. -/
def labelText (label : String × String) : String :=
  label.1 ++ "=\"" ++ String.ofList (label.2.toList.flatMap escapeLabel) ++ "\""

/-- A line that gives the number of a series. -/
def sample (name : String) (labels : Labels) (count : Nat) : String :=
  let shown :=
    if labels.isEmpty then ""
    else "\x7b" ++ String.intercalate "," (labels.map labelText) ++ "\x7d"
  name ++ shown ++ " " ++ toString count ++ ".0"

namespace Family

/-- The lines of a family, given the series to be counted. -/
def lines (family : Family) (series : List (Labels × Nat)) : List String :=
  let name := if family.kind = .histogram then family.name ++ "_count" else family.name
  ["# HELP " ++ family.name ++ " " ++ family.description,
    "# TYPE " ++ family.name ++ " " ++ family.kind.text]
    ++ series.map fun row => sample name row.1 row.2

end Family

/-- The counts of queries by mode. -/
def byMode (tally : Session.Tally) (count : Session.QueryCount → Nat) : List (Labels × Nat) :=
  [Search.Mode.name, .type].filterMap fun mode =>
    match count (tally.queries mode) with
    | 0 => none
    | counted => some ([("mode", mode.text)], counted)

/-- The lines of the exposition of what has been counted. -/
def expositionLines (tally : Session.Tally) : List String :=
  let withStatus := fun (status : String) (row : Labels × Nat) =>
    (row.1 ++ [("status", status)], row.2)
  latency.lines (byMode tally (·.timed))
    ++ queries.lines
      ((byMode tally (·.ok)).map (withStatus "ok")
        ++ (byMode tally (·.failed)).map (withStatus "error"))
    ++ indexEntries.lines [([], tally.indexedEntries)]
    ++ parseFallbacks.lines [([], tally.parseFallbacks)]
    ++ moduleFailures.lines
      (tally.moduleFailures.rows.map fun row => ([("package", row.1)], row.2))
    ++ packageLoad.lines [([], tally.loadsTimed)]

/-- The exposition of what has been counted. -/
def exposition (tally : Session.Tally) : String :=
  String.join ((expositionLines tally).map (· ++ "\n"))

end Metric
end SignatureSearch
