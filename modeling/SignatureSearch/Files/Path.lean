import SignatureSearch.Text.Occurrence

/-!
# Paths

Paths of the file system: a root, and the steps that lead from it.  Repeated slashes and steps that
stay where they are make no difference; a path that starts with exactly two slashes has a root of
its own.
-/

namespace SignatureSearch

/-- Where a path starts. -/
inductive Root where
  /-- At the working directory. -/
  | here
  /-- At the root of the file system. -/
  | top
  /-- At the root that two slashes stand for. -/
  | double
  deriving DecidableEq, Repr, Inhabited

namespace Root

/-- How a root is written. -/
def text : Root → List Char
  | here => []
  | top => ['/']
  | double => ['/', '/']

end Root

/-- A path of the file system. -/
structure Path where
  /-- Where it starts. -/
  root : Root
  /-- The steps that lead on from there. -/
  steps : List (List Char)
  deriving DecidableEq, Repr, Inhabited

namespace Path

/-- Whether a step leads anywhere. -/
def isStep (step : List Char) : Bool :=
  !step.isEmpty && step != ['.']

/-- The path that a text writes. -/
def ofChars (text : List Char) : Path :=
  let root : Root :=
    match (text.takeWhile (· == '/')).length with
    | 0 => .here
    | 2 => .double
    | _ => .top
  let parts := Text.splitAt '/' text
  { root, steps := (parts.1 :: parts.2).filter isStep }

/-- The path that a text writes. -/
def ofText (text : String) : Path :=
  ofChars text.toList

/-- How a path is written. -/
def chars (path : Path) : List Char :=
  if path.root = .here ∧ path.steps = [] then ['.']
  else path.root.text ++ Text.join ['/'] path.steps

/-- How a path is written. -/
def text (path : Path) : String :=
  String.ofList path.chars

/-- The last step, empty when there is none. -/
def name (path : Path) : List Char :=
  path.steps.getLast?.getD []

/-- The path without its last step. -/
def parent (path : Path) : Path :=
  { path with steps := path.steps.dropLast }

/-- A name without its extension: what follows the last dot, unless nothing stands on one side of
the dot. -/
def dropExtension (name : List Char) : List Char :=
  let extension := name.reverse.takeWhile (· != '.')
  let front := (name.reverse.dropWhile (· != '.')).drop 1
  if extension.isEmpty || front.isEmpty then name else front.reverse

/-- The last step without its extension. -/
def stem (path : Path) : List Char :=
  dropExtension path.name

/-- The root and the steps as paths are ordered by them. -/
def sortKey (path : Path) : List (List Char) :=
  if path.root = .here then path.steps else path.root.text :: path.steps

end Path
end SignatureSearch
