import SignatureSearch.Validation.Coercion

/-!
# Settings

What can be configured, the values that hold when nothing is, and the checks on values given.
-/

namespace SignatureSearch

/-- The configuration of the program. -/
structure Settings where
  /-- The name of the log level. -/
  logLevel : String := "info"
  /-- Whether log lines are JSON. -/
  logJson : Bool := true
  /-- The most results that a query gives. -/
  maxResults : { n : Nat // 1 ≤ n } := ⟨50, by decide⟩
  /-- Whether a name search looks at types as well. -/
  nameSearchIncludesTypes : Bool := true
  /-- Whether signatures are worked out when a package is loaded. -/
  eagerParse : Bool := false
  /-- The number of workers that warm up signatures. -/
  parseWorkers : { n : Nat // 1 ≤ n } := ⟨4, by decide⟩
  /-- The name under which the program reports what it does. -/
  serviceName : String := "docs-type-search"
  deriving DecidableEq, Repr, Inhabited

namespace Settings

/-- The names of the settings in order. -/
def names : List String :=
  ["log_level", "log_json", "max_results", "name_search_includes_types", "eager_parse",
    "parse_workers", "service_name"]

/-- A setting under a name, checked when a value is given for it. -/
def setting {α : Type} (given : String → Option Json) (name : String) (standard : α)
    (check : Json → Validated α) : Validated α :=
  Validated.part name (some standard) check (given name)

/-- The settings with given values, all of them checked. -/
def check (given : String → Option Json) : Validated Settings :=
  let standard : Settings := {}
  let checked :=
    Validated.both (setting given "log_level" standard.logLevel Validation.checkString)
      (.both (setting given "log_json" standard.logJson Validation.checkBoolean)
        (.both (setting given "max_results" standard.maxResults Validation.checkPositive)
          (.both
            (setting given "name_search_includes_types" standard.nameSearchIncludesTypes
              Validation.checkBoolean)
            (.both (setting given "eager_parse" standard.eagerParse Validation.checkBoolean)
              (.both
                (setting given "parse_workers" standard.parseWorkers Validation.checkPositive)
                (setting given "service_name" standard.serviceName Validation.checkString))))))
  checked.map
    fun (logLevel, logJson, maxResults, nameSearchIncludesTypes, eagerParse, parseWorkers,
        serviceName) =>
      { logLevel, logJson, maxResults, nameSearchIncludesTypes, eagerParse, parseWorkers,
        serviceName }

end Settings
end SignatureSearch
