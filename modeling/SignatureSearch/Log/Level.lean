import SignatureSearch.Text.Blank

/-!
# Log levels

Levels of importance are numbers; some have names.  A configured level is a name in any case, and
a text that names no level stands for the level of information.
-/

namespace SignatureSearch
namespace Log

/-- How important a message is. -/
inductive Severity where
  /-- For following what the program does. -/
  | debug
  /-- For being informed. -/
  | info
  /-- Something was left out. -/
  | warning
  /-- Something failed. -/
  | error
  /-- Nothing works. -/
  | critical
  deriving DecidableEq, Repr

namespace Severity

/-- The level of a severity. -/
def level : Severity → Nat
  | debug => 10
  | info => 20
  | warning => 30
  | error => 40
  | critical => 50

end Severity

/-- The names of levels, the preferred name of a level first. -/
def levelNames : List (String × Nat) :=
  [("CRITICAL", 50), ("FATAL", 50), ("ERROR", 40), ("WARNING", 30), ("WARN", 30), ("INFO", 20),
    ("DEBUG", 10), ("NOTSET", 0)]

/-- A character in upper case, as far as the case matters to a name of ASCII letters. -/
def upperChar (c : Char) : Char :=
  if c = 'ı' then 'I' else if c = 'ſ' then 'S' else c.toUpper

/-- The level that a configured name stands for. -/
def levelOf (name : String) : Nat :=
  (levelNames.lookup (name.map upperChar)).getD 20

/-- The name of a level. -/
def levelName (level : Int) : String :=
  match levelNames.find? fun row => (row.2 : Int) == level with
  | some row => row.1
  | none => "Level " ++ toString level

/-- A part of the program that writes messages. -/
inductive Source where
  /-- Reading signatures. -/
  | parser
  /-- Building the index. -/
  | index
  /-- Ranking. -/
  | query
  /-- Reading documentation. -/
  | loader
  /-- Setting up tracing. -/
  | tracing
  /-- The command line. -/
  | commandLine
  deriving DecidableEq, Repr

namespace Source

/-- The dotted name under which a part writes. -/
def logger : Source → String
  | parser => "docs_type_search.search.parser"
  | index => "docs_type_search.search.index"
  | query => "docs_type_search.search.query"
  | loader => "docs_type_search.adapters.docs_loader"
  | tracing => "docs_type_search.observability.tracing"
  | commandLine => "docs_type_search.cli"

end Source

/-- A message that the program writes. -/
structure Notice where
  /-- How important it is. -/
  severity : Severity
  /-- Where it comes from. -/
  source : Source
  /-- What it says. -/
  message : String
  deriving DecidableEq, Repr

namespace Notice

/-- Whether a message is written at a configured level. -/
def passes (threshold : Nat) (notice : Notice) : Bool :=
  threshold ≤ notice.severity.level

end Notice
end Log
end SignatureSearch
