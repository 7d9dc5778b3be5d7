import SignatureSearch.Log.Level
import SignatureSearch.Log.Line

/-!
# Log configuration

Which messages are written, and how.  Parts of the program have dotted names and lie in one another.
A part without a level of its own follows the one that it lies in, up to the root; a part is known
once it has been given a level or has written.
-/

namespace SignatureSearch
namespace Log

/-- A part that is known. -/
structure Part where
  /-- Its level; zero stands for none. -/
  level : Nat := 0
  /-- The part that it lies in, if that is not the root. -/
  parent : Option String
  deriving DecidableEq, Repr

/-- Which messages are written, and how. -/
structure Configuration where
  /-- The level of the root. -/
  root : Nat
  /-- Whether lines are JSON. -/
  json : Bool
  /-- The parts that are known. -/
  parts : Table Part := .empty
  /-- Whether a part writes at a level, where that has been decided. -/
  decided : List ((String × Int) × Bool) := []

namespace Configuration

/-- Whether a name is one of the root's. -/
def isRoot (name : String) : Bool :=
  name == "" || name == "root"

/-- What remains of a name that is read from its end when its last step is dropped with the point
before it. -/
def dropStep (back : List Char) : List Char :=
  (back.dropWhile (· != '.')).drop 1

theorem length_dropStep (back : List Char) : (dropStep back).length ≤ back.length := by
  have shorter := (List.dropWhile_suffix (l := back) (· != '.')).length_le
  simp only [dropStep, List.length_drop]
  omega

/-- The names in which a name lies that is read from its end, the narrowest first.  A character that
stands before a point is not looked at again, so of two points in a row the second alone counts. -/
def enclosing (back : List Char) : List String :=
  match _found : dropStep back with
  | [] => []
  | c :: front => String.ofList (c :: front).reverse :: enclosing front
termination_by back.length
decreasing_by
  have := length_dropStep back
  simp only [_found, List.length_cons] at this
  omega

/-- The names in which a name lies, the narrowest first. -/
def ancestors (name : String) : List String :=
  enclosing name.toList.reverse

/-- Whether a part that comes to be known takes the place of the one that another part lies in. -/
def comesBetween (name child : String) (part : Part) : Bool :=
  (ancestors child).contains name && !name.toList.isPrefixOf (part.parent.getD "root").toList

/-- The configuration in which a part is known. -/
def introduce (configuration : Configuration) (name : String) : Configuration :=
  if isRoot name || configuration.parts.contains name then configuration
  else
    let parts := configuration.parts.mapValues fun child part =>
      if comesBetween name child part then { part with parent := some name } else part
    let parent := (ancestors name).find? configuration.parts.contains
    { configuration with parts := parts.put name { parent } }

/-- The configuration with a level for a part. -/
def assign (configuration : Configuration) (name : String) (level : Nat) : Configuration :=
  if isRoot name then { configuration with root := level }
  else
    let configuration := configuration.introduce name
    match configuration.parts.get? name with
    | none => configuration
    | some part =>
        { configuration with parts := configuration.parts.put name { part with level } }

/-- The configuration for the name of the root's level and those of the levels of parts. -/
def ofNames (level : String) (json : Bool) (levels : List (String × String)) : Configuration :=
  levels.foldl (fun configuration row => configuration.assign row.1 (levelOf row.2))
    { root := levelOf level, json }

/-- The level that holds for a part, looked for in so many parts at most. -/
def levelWithin (configuration : Configuration) : Nat → String → Nat
  | 0, _ => configuration.root
  | steps + 1, name =>
      match configuration.parts.get? name with
      | none => configuration.root
      | some part =>
          if part.level != 0 then part.level
          else
            match part.parent with
            | none => configuration.root
            | some parent => configuration.levelWithin steps parent

/-- The level that holds for a part. -/
def effective (configuration : Configuration) (name : String) : Nat :=
  let configuration := configuration.introduce name
  configuration.levelWithin configuration.parts.rows.length name

/-- Whether the level that holds for a part lets a message of some level through. -/
def writes (configuration : Configuration) (name : String) (level : Int) : Bool :=
  0 < level && configuration.effective name ≤ level

/-- Whether a message of a part is written at a level, which is decided once, and the configuration
after that. -/
def admits (configuration : Configuration) (name : String) (level : Int) : Bool × Configuration :=
  let configuration := configuration.introduce name
  match configuration.decided.lookup (name, level) with
  | some found => (found, configuration)
  | none =>
      let found := configuration.writes name level
      (found, { configuration with decided := ((name, level), found) :: configuration.decided })

end Configuration

/-- A message that a part writes at a level. -/
structure Emission where
  /-- The dotted name of the part. -/
  logger : String
  /-- The level. -/
  level : Int
  /-- What it says. -/
  message : String
  deriving DecidableEq, Repr

namespace Emission

/-- The name of the part as lines show it. -/
def loggerText (emission : Emission) : String :=
  if Configuration.isRoot emission.logger then "root" else emission.logger

/-- What a JSON line tells: the name of the level, the part and the message. -/
def told (emission : Emission) : List String :=
  [levelName emission.level, emission.loggerText,
    String.ofList (clip '.' messageLimit emission.message.toList)]

/-- A plain line without the time before it. -/
def plainText (emission : Emission) : String :=
  levelName emission.level ++ " [" ++ emission.loggerText ++ "] " ++ emission.message

end Emission

namespace Configuration

/-- The messages that are written, in order, and the configuration after them. -/
def written (configuration : Configuration) : List Emission → List Emission × Configuration
  | [] => ([], configuration)
  | emission :: emissions =>
      let (found, configuration) := configuration.admits emission.logger emission.level
      let (rest, configuration) := written configuration emissions
      (if found then emission :: rest else rest, configuration)

end Configuration
end Log
end SignatureSearch
