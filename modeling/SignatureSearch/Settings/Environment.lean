import SignatureSearch.Settings.Basic

/-!
# Settings from the surroundings

A setting is taken from what is given directly, else from the environment, else from a file of
assignments, else it keeps its standard value.  Its name may be written in any case, and has a
prefix in the environment and in the file.  Of several spellings the first counts among what is
given directly, and elsewhere the last.
-/

namespace SignatureSearch
namespace Settings

/-- What comes before the name of a setting in the environment. -/
def environmentStem : String :=
  "docs_type_search_"

/-- A variable's name in lower case, as far as the case matters to the names of settings. -/
def foldName (name : String) : String :=
  name.map fun c => if c.toNat = 0x212A then 'k' else c.toLower

/-- The value that is given to a setting directly. -/
def given? (init : List (String × Json)) (name : String) : Option Json :=
  (init.find? fun row => foldName row.1 == name).map Prod.snd

/-- The value that assignments give to a setting. -/
def assigned? (assignments : List (String × Option String)) (name : String) : Option Json :=
  let wanted := environmentStem ++ name
  match assignments.reverse.find? fun row => foldName row.1 == wanted with
  | some (_, some text) => some (.string text)
  | _ => none

/-- The settings that hold for values given directly, in an environment and with the assignments of
a file, none where there is no file. -/
def load (init : List (String × Json)) (environment : List (String × String))
    (assignments : List (String × Option String)) : Validated Settings :=
  let surroundings := environment.map fun row => (row.1, some row.2)
  check fun name =>
    ((given? init name).or (assigned? surroundings name)).or (assigned? assignments name)

end Settings
end SignatureSearch
