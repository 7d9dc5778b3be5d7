import SignatureSearch.Files.Path
import SignatureSearch.Text.Digit

/-!
# Arguments of the command line

Options with and without a value, and one query.  An option may be shortened as long as no other
option has the same beginning, and its value follows it in the next argument or after an equals
sign.  After a double dash nothing is an option, and neither is a negative number or an argument
with a space in it that is none.  A double dash after the equals sign is taken out, which leaves the
option without a value.
-/

namespace SignatureSearch
namespace CommandLine

/-- An option. -/
inductive Switch where
  /-- Ask for help. -/
  | help
  /-- Name a documentation file. -/
  | docs
  /-- Limit the number of results. -/
  | maxResults
  /-- Print pages instead of searching. -/
  | chunks
  /-- Name a file for metrics. -/
  | metricsFile
  /-- Name a log level. -/
  | logLevel
  deriving DecidableEq, Repr

/-- The short spelling of the option that asks for help. -/
def shortHelp : List Char :=
  "-h".toList

/-- The long spellings of the options. -/
def spellings : List (List Char × Switch) :=
  [("--help", .help), ("--docs", .docs), ("--max-results", .maxResults), ("--chunks", .chunks),
    ("--metrics-file", .metricsFile), ("--log-level", .logLevel)].map
    fun row => (row.1.toList, row.2)

/-- What an argument is. -/
inductive Argument where
  /-- A value or a query. -/
  | word (text : List Char)
  /-- The double dash. -/
  | separator
  /-- An option, with the value after its equals sign. -/
  | switch (switch : Switch) (value : Option (List Char))
  /-- The short spelling of the option that asks for help, with more letters after it, or after an
  equals sign. -/
  | letters (more : List Char)
  /-- No option there is. -/
  | unknown
  deriving DecidableEq, Repr

/-- Several options have the same beginning. -/
structure Ambiguous where
  /-- The argument. -/
  argument : List Char
  deriving DecidableEq, Repr

/-- An argument in two at its first equals sign. -/
def splitValue (argument : List Char) : List Char × Option (List Char) :=
  match argument.dropWhile (· != '=') with
  | [] => (argument, none)
  | _ :: value => (argument.takeWhile (· != '='), some value)

/-- Whether a text writes digits, and a point among or before them if need be. -/
def isNumeral (text : List Char) : Bool :=
  let places := (text.dropWhile Text.isDigit).drop 1
  match text.dropWhile Text.isDigit with
  | [] => !text.isEmpty
  | '.' :: _ => !places.isEmpty && places.all Text.isDigit
  | _ => false

/-- Whether an argument writes a negative number; a line feed may follow it. -/
def isNegative : List Char → Bool
  | '-' :: text => isNumeral text || (text.getLast? == some '\n' && isNumeral text.dropLast)
  | _ => false

/-- What an argument is that is no option, though it starts like one. -/
def unrecognized (argument : List Char) : Argument :=
  if isNegative argument || argument.contains ' ' then .word argument else .unknown

/-- What an argument is that starts with two dashes. -/
def classifyLong (argument : List Char) : Except Ambiguous Argument :=
  let (front, value) := splitValue argument
  match spellings.lookup front with
  | some switch => .ok (.switch switch value)
  | none =>
      match spellings.filter fun row => front.isPrefixOf row.1 with
      | [] => .ok (unrecognized argument)
      | [row] => .ok (.switch row.2 value)
      | _ => .error { argument }

/-- What an argument before the double dash is. -/
def classify (argument : List Char) : Except Ambiguous Argument :=
  match argument with
  | '-' :: '-' :: _ => classifyLong argument
  | ['-', 'h'] => .ok (.switch .help none)
  | '-' :: 'h' :: '=' :: more => .ok (.letters more)
  | '-' :: 'h' :: more => .ok (.letters more)
  | '-' :: _ :: _ => .ok (unrecognized argument)
  | _ => .ok (.word argument)

/-- What arguments are. -/
def classifyAll : List (List Char) → Except Ambiguous (List Argument)
  | [] => .ok []
  | argument :: rest =>
      if argument = ['-', '-'] then .ok (.separator :: rest.map .word)
      else
        match classify argument, classifyAll rest with
        | .ok first, .ok more => .ok (first :: more)
        | .error ambiguous, _ => .error ambiguous
        | _, .error ambiguous => .error ambiguous

/-- The value of an option. -/
inductive OptionValue (α : Type) where
  /-- A value. -/
  | given (value : α)
  /-- Nothing, where only a double dash stands after the equals sign. -/
  | hollow
  deriving DecidableEq, Repr, Inhabited

/-- What the arguments ask for. -/
structure Arguments where
  /-- The query. -/
  query : String := ""
  /-- The documentation files as they are named. -/
  docs : List (OptionValue String) := []
  /-- The limit on the number of results. -/
  maxResults : Option (OptionValue Int) := none
  /-- Whether pages are printed instead of searching. -/
  chunks : Bool := false
  /-- The file for metrics. -/
  metricsFile : Option Path := none
  /-- The name of the log level. -/
  logLevel : Option String := none
  deriving DecidableEq, Repr, Inhabited

/-- What comes of reading arguments. -/
inductive Parsed where
  /-- Help is asked for. -/
  | help
  /-- The arguments are used wrongly. -/
  | misused
  /-- They ask for something. -/
  | accepted (arguments : Arguments)
  deriving DecidableEq, Repr

/-- What has been read of the arguments. -/
structure Reading where
  /-- What they ask for so far. -/
  arguments : Arguments := {}
  /-- Whether the query has been read. -/
  hasQuery : Bool := false
  /-- Whether an argument is of no use. -/
  surplus : Bool := false

namespace Reading

/-- What has been read, with one more option and its value; none when the value is no number. -/
def assign (reading : Reading) (switch : Switch) (value : List Char) : Option Reading :=
  let arguments := reading.arguments
  let text := String.ofList value
  let asked : Option Arguments :=
    match switch with
    | .help => some arguments
    | .chunks => some { arguments with chunks := true }
    | .docs => some { arguments with docs := arguments.docs ++ [.given text] }
    | .maxResults =>
        (Text.readInteger? value).map fun limit =>
          { arguments with maxResults := some (.given limit) }
    | .metricsFile => some { arguments with metricsFile := some (.ofChars value) }
    | .logLevel => some { arguments with logLevel := some text }
  asked.map fun arguments => { reading with arguments }

/-- What has been read, with one more option that has a hollow value: a file for metrics or a log
level is then as good as not named. -/
def assignHollow (reading : Reading) (switch : Switch) : Reading :=
  let arguments := reading.arguments
  let asked :=
    match switch with
    | .help | .chunks => arguments
    | .docs => { arguments with docs := arguments.docs ++ [.hollow] }
    | .maxResults => { arguments with maxResults := some .hollow }
    | .metricsFile => { arguments with metricsFile := none }
    | .logLevel => { arguments with logLevel := none }
  { reading with arguments := asked }

/-- What has been read, with one more word. -/
def addWord (reading : Reading) (word : List Char) : Reading :=
  if reading.hasQuery then { reading with surplus := true }
  else
    { reading with
      arguments := { reading.arguments with query := String.ofList word }
      hasQuery := true }

/-- The end of the arguments: a documentation file has to be named, and no argument may be of no
use. -/
def finish (reading : Reading) : Parsed :=
  if reading.surplus || reading.arguments.docs.isEmpty then .misused
  else .accepted reading.arguments

end Reading

/-- What comes of letters after the short spelling of the option for help: each has to ask for help
once more. -/
def readLetters (letters : List Char) : Parsed :=
  if !letters.isEmpty && letters.all (· == 'h') then .help else .misused

/-- Words at the end of the arguments, the double dash taken out. -/
def readWords (reading : Reading) : List Argument → Reading
  | [] => reading
  | .word text :: rest => readWords (reading.addWord text) rest
  | _ :: rest => readWords reading rest

/-- The end of the arguments from a double dash on, which is of no use after the query unless it
comes right after it. -/
def readSeparated (reading : Reading) (afterQuery : Bool) (rest : List Argument) : Parsed :=
  let surplus := reading.surplus || (reading.hasQuery && !afterQuery)
  (readWords { reading with surplus } rest).finish

/-- Read arguments; `afterQuery` tells whether the query comes right before them. -/
def readArguments (reading : Reading) (afterQuery : Bool) : List Argument → Parsed
  | [] => reading.finish
  | .separator :: rest => readSeparated reading afterQuery rest
  | .word text :: rest => readArguments (reading.addWord text) (!reading.hasQuery) rest
  | .unknown :: rest => readArguments { reading with surplus := true } false rest
  | .letters more :: _ => readLetters more
  | .switch .help none :: _ => .help
  | .switch .help (some _) :: _ => .misused
  | .switch .chunks (some _) :: _ => .misused
  | .switch .chunks none :: rest =>
      match reading.assign .chunks [] with
      | some reading => readArguments reading false rest
      | none => .misused
  | .switch switch (some ['-', '-']) :: rest =>
      readArguments (reading.assignHollow switch) false rest
  | .switch switch (some value) :: rest =>
      match reading.assign switch value with
      | some reading => readArguments reading false rest
      | none => .misused
  | .switch switch none :: .word value :: rest =>
      match reading.assign switch value with
      | some reading => readArguments reading false rest
      | none => .misused
  | .switch _ none :: _ => .misused

/-- What arguments ask for. -/
def parseArguments (arguments : List String) : Parsed :=
  match classifyAll (arguments.map String.toList) with
  | .error _ => .misused
  | .ok classified => readArguments {} false classified

end CommandLine
end SignatureSearch
