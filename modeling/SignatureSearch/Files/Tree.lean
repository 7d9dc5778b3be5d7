import SignatureSearch.Files.Disk

/-!
# File trees

The files of a system, each at the steps that lead to it from the root.  A directory is there as
long as a file lies in it; besides, there are the directories that every system has, the working
directory with those that it lies in, and a file that is always empty.
-/

namespace SignatureSearch

/-- Steps from the root of the file system. -/
abbrev Location : Type :=
  List (List Char)

/-- Files by their locations. -/
structure Files where
  /-- The files with their octets. -/
  rows : List (Location × List UInt8) := []
  deriving Repr, Inhabited

namespace Files

/-- Where the working directory lies. -/
def workingDirectory : Location :=
  ["tmp".toList, "work".toList]

/-- The names of the directories in the root of every system. -/
def systemNames : List String :=
  ["bin", "boot", "dev", "etc", "home", "lib", "media", "mnt", "opt", "proc", "root", "run", "sbin",
    "srv", "sys", "tmp", "usr", "var"]

/-- The file that is empty whatever is written to it. -/
def sink : Location :=
  ["dev".toList, "null".toList]

/-- A place to which steps lead. -/
inductive Place where
  /-- A file. -/
  | file (location : Location)
  /-- A directory. -/
  | directory (location : Location)
  deriving DecidableEq, Repr

/-- Whether there is a directory at a location whatever files there are. -/
def isStanding (location : Location) : Bool :=
  location.isPrefixOf workingDirectory || systemNames.any fun name => location == [name.toList]

/-- The place at a location. -/
def place? (files : Files) (location : Location) : Option Place :=
  if location = sink || (files.rows.lookup location).isSome then some (.file location)
  else if isStanding location || files.rows.any fun row => location.isPrefixOf row.1 then
    some (.directory location)
  else none

/-- The step that leads to the directory above. -/
def upward : List Char :=
  ['.', '.']

/-- How many octets a name may take. -/
def nameLimit : Nat := 255

/-- How many octets a path may take. -/
def pathLimit : Nat := 4095

/-- Go one step from a place; the directory above the root is the root. -/
def go (files : Files) (place : Place) (step : List Char) : Except FileError Place :=
  match place with
  | .file _ => .error .notDirectory
  | .directory location =>
      if step = upward then .ok (.directory location.dropLast)
      else if nameLimit < (String.ofList step).utf8ByteSize then .error .nameTooLong
      else
        match files.place? (location ++ [step]) with
        | some place => .ok place
        | none => .error .notFound

/-- Go step by step. -/
def goAll (files : Files) (place : Place) : List (List Char) → Except FileError Place
  | [] => .ok place
  | step :: steps =>
      match files.go place step with
      | .error error => .error error
      | .ok place => files.goAll place steps

/-- The place where a path starts. -/
def startOf (path : Path) : Place :=
  .directory (if path.root = .here then workingDirectory else [])

/-- Whether a path can be used at all. -/
def checkPath (path : Path) : Except FileError Unit :=
  if path.chars.contains (Char.ofNat 0) then .error (.noPath .nullByte)
  else if pathLimit < path.text.utf8ByteSize then .error .nameTooLong
  else .ok ()

/-- The octets of the file at a path. -/
def read (files : Files) (path : Path) : Except FileError (List UInt8) := do
  checkPath path
  match ← files.goAll (startOf path) path.steps with
  | .file location => .ok ((files.rows.lookup location).getD [])
  | .directory _ => .error .isDirectory

/-- Whether a file stands at a path; the one that is always empty is none to read from. -/
def isFile (files : Files) (path : Path) : Except FileError Bool := do
  checkPath path
  match ← files.goAll (startOf path) path.steps with
  | .file location => .ok (location != sink)
  | .directory _ => .ok false

/-- The tree with a file put at a location. -/
def put (files : Files) (location : Location) (octets : List UInt8) : Files :=
  if location = sink then files
  else { rows := (location, octets) :: files.rows.filter fun row => row.1 != location }

/-- The location at which octets written to the file at a path come to lie. -/
def target (files : Files) (path : Path) : Except FileError Location := do
  checkPath path
  match ← files.goAll (startOf path) path.steps.dropLast, path.steps.getLast? with
  | .file _, _ => .error .notDirectory
  | .directory _, none => .error .isDirectory
  | .directory location, some step =>
      match files.go (.directory location) step with
      | .ok (.file location) => .ok location
      | .ok (.directory _) => .error .isDirectory
      | .error .notFound => .ok (location ++ [step])
      | .error error => .error error

/-- The tree after octets have been written to the file at a path. -/
def write (files : Files) (path : Path) (octets : List UInt8) : Except FileError Files :=
  (files.target path).map fun location => files.put location octets

/-- The tree as the program sees it. -/
def disk (files : Files) : Disk where
  read := files.read
  obstacle? := fun path =>
    match files.target path with
    | .error error => some error
    | .ok _ => none
  isFile := files.isFile

/-- The tree with a file put at a path, whatever directories it takes. -/
def add (files : Files) (row : Path × List UInt8) : Files :=
  let start := if row.1.root = .here then workingDirectory else []
  let follow := fun (location : Location) step =>
    if step = upward then location.dropLast else location ++ [step]
  files.put (row.1.steps.foldl follow start) row.2

/-- The tree of files given by their paths. -/
def ofRows (rows : List (Path × List UInt8)) : Files :=
  rows.foldl add {}

end Files
end SignatureSearch
