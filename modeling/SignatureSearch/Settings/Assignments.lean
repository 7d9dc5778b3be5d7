import SignatureSearch.Table
import SignatureSearch.Text.Blank
import SignatureSearch.Text.Occurrence

/-!
# Assignment files

Files of lines `NAME=value`.  A name may have the word `export` before it; a value stands between
quote marks, in which it may go on over several lines, or ends with its line; a comment starts with
a number sign.  A line that makes no sense is passed over.  A value may refer to variables by
`${NAME}` or, with a text for the case that there is none, by `${NAME:-text}`.

The program leaves the reading of such files to a library, and this reader is assumed to read them
in the same way.  Nothing that is proved of a run depends on it, since a run takes any reader.
-/

namespace SignatureSearch
namespace Settings
namespace Assignments

/-- Whether a character is blank and ends no line. -/
def isPadding (c : Char) : Bool :=
  Text.isBlank c && c != '\n' && c != '\r'

/-- A text without the padding before it. -/
def skipPadding (text : List Char) : List Char :=
  text.dropWhile isPadding

/-- A text with every end of line written as one line feed. -/
def unifyLines : List Char → List Char
  | '\r' :: '\n' :: rest => '\n' :: unifyLines rest
  | '\r' :: rest => '\n' :: unifyLines rest
  | c :: rest => c :: unifyLines rest
  | [] => []

/-- A text from the line after its first. -/
def skipLine (text : List Char) : List Char :=
  (text.dropWhile (· ≠ '\n')).drop 1

/-- A text without the word `export` before a name. -/
def skipExport (text : List Char) : List Char :=
  match Text.after? "export".toList text with
  | some (c :: rest) => if isPadding c then skipPadding rest else text
  | _ => text

/-- A text without a comment at its head. -/
def skipComment (text : List Char) : List Char :=
  match skipPadding text with
  | '#' :: rest => rest.dropWhile (· ≠ '\n')
  | _ => text

/-- What follows the end of the line, when nothing but padding comes before it. -/
def endLine? (text : List Char) : Option (List Char) :=
  match skipPadding text with
  | [] => some []
  | '\n' :: rest => some rest
  | _ => none

/-- A quoted text after its opening mark, apart from what follows the closing one.  A backslash
takes the character after it along, so that this is no closing mark. -/
def upToMark (mark : Char) : List Char → Option (List Char × List Char)
  | [] => none
  | '\\' :: c :: rest => (upToMark mark rest).map fun (run, after) => ('\\' :: c :: run, after)
  | c :: rest =>
      if c = mark then some ([], rest)
      else (upToMark mark rest).map fun (run, after) => (c :: run, after)

/-- The character that an escape between double quote marks writes. -/
def escaped? : Char → Option Char
  | '\\' => some '\\'
  | '\'' => some '\''
  | '"' => some '"'
  | 'a' => some (Char.ofNat 0x07)
  | 'b' => some (Char.ofNat 0x08)
  | 'f' => some (Char.ofNat 0x0C)
  | 'n' => some '\n'
  | 'r' => some '\r'
  | 't' => some '\t'
  | 'v' => some (Char.ofNat 0x0B)
  | _ => none

/-- A quoted text with its escapes replaced. -/
def unescape (escape? : Char → Option Char) : List Char → List Char
  | '\\' :: c :: rest =>
      match escape? c with
      | some written => written :: unescape escape? rest
      | none => '\\' :: unescape escape? (c :: rest)
  | c :: rest => c :: unescape escape? rest
  | [] => []

/-- The character that an escape between apostrophes writes. -/
def escapedPlain? (c : Char) : Option Char :=
  if c = '\\' ∨ c = '\'' then some c else none

/-- A text up to the first number sign with a blank before it. -/
def upToComment : List Char → List Char
  | [] => []
  | c :: rest =>
      if Text.isBlank c && (rest.dropWhile Text.isBlank).head? == some '#' then []
      else c :: upToComment rest

/-- What comes of reading at the head of a text: something, apart from the text after it, or
nothing, with the text from where it makes no sense. -/
abbrev Reading (α : Type) : Type :=
  Except (List Char) (α × List Char)

/-- What has been read, if anything has, of a text. -/
def Reading.ofOption {α : Type} (text : List Char) : Option (α × List Char) → Reading α
  | some found => .ok found
  | none => .error text

/-- A value after its equals sign. -/
def readValue (text : List Char) : Reading (List Char) :=
  match skipPadding text with
  | '\'' :: rest =>
      .ofOption ('\'' :: rest) <|
        (upToMark '\'' rest).map fun (run, after) => (unescape escapedPlain? run, after)
  | '"' :: rest =>
      .ofOption ('"' :: rest) <|
        (upToMark '"' rest).map fun (run, after) => (unescape escaped? run, after)
  | _ =>
      .ok (Text.trim (upToComment (text.takeWhile (· ≠ '\n'))), text.dropWhile (· ≠ '\n'))

/-- A name, none where a comment stands in its place. -/
def readName (text : List Char) : Reading (Option (List Char)) :=
  match text with
  | '#' :: _ => .ok (none, text)
  | '\'' :: rest =>
      let run := rest.takeWhile (· ≠ '\'')
      match rest.dropWhile (· ≠ '\'') with
      | _ :: after => if run.isEmpty then .error text else .ok (some run, after)
      | [] => .error text
  | text =>
      let isPart := fun c => c != '=' && c != '#' && !Text.isBlank c
      let run := text.takeWhile isPart
      if run.isEmpty then .error text else .ok (some run, text.dropWhile isPart)

/-- What a line says: a name, none for a comment, and the value that it is given, if it is. -/
structure Line where
  /-- The name. -/
  name : Option String
  /-- The value. -/
  value : Option String
  deriving DecidableEq, Repr

/-- The line at the head of a text. -/
def readLine (text : List Char) : Except (List Char) (Line × List Char) := do
  let (name, rest) ← readName (skipExport text)
  let rest := skipPadding rest
  let (value, rest) ←
    match rest with
    | '=' :: rest => (readValue rest).map fun (value, rest) => (some value, rest)
    | rest => .ok (none, rest)
  let rest := skipComment rest
  let line : Line := { name := name.map String.ofList, value := value.map String.ofList }
  match endLine? rest with
  | some after => return (line, after)
  | none => .error rest

/-- The assignments of a text in order; a name that is given no value counts as one. -/
def readAll (text : List Char) : List (String × Option String) :=
  match text.dropWhile Text.isBlank with
  | [] => []
  | start =>
      let (assigned, rest) :=
        match readLine start with
        | .ok (line, rest) => ((line.name.map fun name => (name, line.value)).toList, rest)
        | .error rest => ([], skipLine rest)
      if rest.length < text.length then assigned ++ readAll rest else assigned
termination_by text.length

/-- A reference to a variable after its opening, apart from what follows it: the name, and the text
for the case that there is none. -/
def readReference? (text : List Char) : Option ((List Char × List Char) × List Char) :=
  let name := text.takeWhile fun c => c ≠ '}' ∧ c ≠ ':'
  match text.dropWhile fun c => c ≠ '}' ∧ c ≠ ':' with
  | '}' :: rest => some ((name, []), rest)
  | ':' :: '-' :: rest =>
      match rest.dropWhile (· ≠ '}') with
      | _ :: after => some ((name, rest.takeWhile (· ≠ '}')), after)
      | [] => none
  | _ => none

/-- A value with its references replaced. -/
def expand (value? : String → Option String) (text : List Char) : List Char :=
  match text with
  | [] => []
  | '$' :: '{' :: tail =>
      match readReference? tail with
      | some ((name, standard), rest) =>
          let found := ((value? (String.ofList name)).map String.toList).getD standard
          if rest.length ≤ tail.length then found ++ expand value? rest else found
      | none => '$' :: expand value? ('{' :: tail)
  | c :: rest => c :: expand value? rest
termination_by text.length

/-- The assignments before one with the references in it replaced, a name that has been assigned
before its variable in the surroundings. -/
def assign (surroundings : List (String × String)) (done : Table (Option String))
    (row : String × Option String) : Table (Option String) :=
  let value? := fun name =>
    match done.get? name with
    | some value => some (value.getD "")
    | none => surroundings.lookup name
  done.put row.1 (row.2.map fun value => String.ofList (expand value? value.toList))

/-- A text without a mark of the order of octets at its head. -/
def skipOrderMark (text : List Char) : List Char :=
  match text with
  | c :: rest => if c.toNat = 0xFEFF then rest else text
  | [] => []

/-- The assignments that a file makes, in the given surroundings. -/
def read (surroundings : List (String × String)) (file : String) :
    List (String × Option String) :=
  let assigned := readAll (unifyLines (skipOrderMark file.toList))
  (assigned.foldl (assign surroundings) .empty).rows

end Assignments
end Settings
end SignatureSearch
