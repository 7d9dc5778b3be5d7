import SignatureSearch.CommandLine.Arguments
import SignatureSearch.CommandLine.DocsArgument
import SignatureSearch.CommandLine.Platform
import SignatureSearch.Docs.Payload
import SignatureSearch.Files.Disk
import SignatureSearch.Log.Configuration
import SignatureSearch.Metric.Exposition
import SignatureSearch.Session.Loading
import SignatureSearch.Settings.Environment

/-!
# Running the command line

All that is asked for is checked, all documentation files are loaded and the query is answered
before the first line is printed; so whatever fails until then prints nothing.  Then come the pages
of the packages or the results of the query, up to the first line that cannot be printed, and last
of all the metrics are written.  A failure that the program foresees ends it with a message; at any
other it breaks off.
-/

namespace SignatureSearch
namespace CommandLine

/-- What the program is given. -/
structure Invocation where
  /-- The arguments. -/
  arguments : List String
  /-- The variables of the environment. -/
  environment : List (String × String) := []
  /-- The files. -/
  disk : Disk
  /-- What it is built on, and where it runs. -/
  platform : Platform := {}

/-- What the program prints. -/
inductive Output where
  /-- How it is used. -/
  | help
  /-- Lines. -/
  | lines (lines : List String)
  deriving DecidableEq, Repr

/-- Why the program breaks off. -/
inductive Breakdown where
  /-- The file of assignments is there, as far as can be told, but cannot be read. -/
  | inaccessible (error : FileError)
  /-- The file of assignments is no text. -/
  | undecodable (found : Text.Undecodable)
  /-- Tracing or metrics do not start, for a reason in words. -/
  | telemetry (reason : String)
  /-- The limit on the number of results is hollow. -/
  | hollowLimit
  /-- The name of a documentation file is hollow. -/
  | hollowDocs
  /-- A query is ranked by something that is no type. -/
  | foreign (error : Signature.TypeExpr.NotAType)
  /-- The answer holds a text that no answer may hold. -/
  | refusedAnswer
  /-- A line cannot be printed. -/
  | unprintable (line : String)
  /-- There are no octets for the metrics. -/
  | unwritable
  /-- The file for metrics has no path. -/
  | noPath (why : NoPath)
  deriving DecidableEq, Repr

/-- The path of the file of assignments. -/
def assignmentFile : Path :=
  Path.ofText ".env"

namespace Breakdown

/-- The reason in words. -/
def message : Breakdown → String
  | inaccessible error => error.message assignmentFile
  | undecodable found => found.message
  | telemetry reason => reason
  | hollowLimit => "'<' not supported between instances of 'list' and 'int'"
  | hollowDocs => "'list' object has no attribute 'partition'"
  | foreign error => error.message
  | refusedAnswer => "an answer holds a text that cannot be encoded"
  | unprintable line => "a line cannot be encoded: " ++ Text.quoted line
  | unwritable => "the metrics cannot be encoded"
  | noPath why => why.message

end Breakdown

/-- What comes of running the program. -/
structure Report where
  /-- The exit code. -/
  exit : Nat
  /-- What is printed. -/
  output : Output := .lines []
  /-- Which messages are written, and how. -/
  logging : Log.Configuration := .ofNames "info" true []
  /-- All messages, in order. -/
  notices : List Log.Notice := []
  /-- What is wrong with the configuration. -/
  issues : List Issue := []
  /-- The metrics that are written, and the file that they are written to. -/
  metrics : Option (Path × String) := none
  /-- Why the program broke off, if it did. -/
  breakdown : Option Breakdown := none

namespace Report

/-- The messages that are written. -/
def written (report : Report) : List Log.Notice :=
  report.notices.filter fun notice =>
    report.logging.writes notice.source.logger notice.severity.level

end Report

/-- The limit on the number of results, if one is given. -/
def Arguments.limit? (arguments : Arguments) : Option Int :=
  match arguments.maxResults with
  | some (.given limit) => some limit
  | _ => none

/-- What is wrong with what the arguments ask for. -/
def complaint? (arguments : Arguments) : Option String :=
  if arguments.limit?.any (· < 1) then some "--max-results must be >= 1"
  else if !arguments.chunks && Text.isAllBlank arguments.query.toList then
    some "A query is required unless --chunks is given"
  else none

/-- Why documentation cannot be loaded. -/
inductive LoadError where
  /-- The file cannot be read. -/
  | unreadable (path : Path) (error : FileError)
  /-- The file holds no documentation. -/
  | payload (error : Docs.PayloadError)
  /-- The package is there already. -/
  | alreadyIndexed (error : Catalog.AlreadyIndexed)
  /-- No file is named. -/
  | unnamed
  deriving DecidableEq, Repr

namespace LoadError

/-- The error in words. -/
def message : LoadError → String
  | unreadable _ (.noPath why) => why.message
  | unreadable path error => "Cannot read docs file " ++ path.text ++ ": " ++ error.message path
  | payload error => error.message
  | alreadyIndexed error => error.message
  | unnamed => Breakdown.hollowDocs.message

end LoadError

/-- The modules that the file at a path documents. -/
def readDocs (disk : Disk) (path : Path) : Except LoadError (List Docs.ModuleDocs) :=
  match disk.read path with
  | .error error => .error (.unreadable path error)
  | .ok octets =>
      match Docs.ofOctets octets with
      | .error error => .error (.payload error)
      | .ok modules => .ok modules

/-- The message about a file that has been read. -/
def loadedMessage (path : Path) (modules : List Docs.ModuleDocs) : String :=
  "Loaded " ++ toString modules.length ++ " modules from " ++ path.text

/-- Load the package that an argument names. -/
def loadPackage (disk : Disk) (session : Session) :
    OptionValue String → Except LoadError Session.LoadReport × Session
  | .hollow => (.error .unnamed, session)
  | .given text =>
      let argument := DocsArgument.ofText text
      match readDocs disk argument.path with
      | .error error => (.error error, session)
      | .ok modules =>
          let noted := session.note .debug .loader (loadedMessage argument.path modules)
          match noted.load argument.package modules with
          | (.error error, session) => (.error (.alreadyIndexed error), session)
          | (.ok report, session) => (.ok report, session)

/-- Load the packages that arguments name, up to the first that fails. -/
def loadPackages (disk : Disk) (session : Session) :
    List (OptionValue String) → Except LoadError (List Session.LoadReport) × Session
  | [] => (.ok [], session)
  | argument :: arguments =>
      match loadPackage disk session argument with
      | (.error error, session) => (.error error, session)
      | (.ok report, session) =>
          match loadPackages disk session arguments with
          | (.error error, session) => (.error error, session)
          | (.ok reports, session) => (.ok (report :: reports), session)

/-- The message about a package of which modules have been left out. -/
def partialMessage (report : Session.LoadReport) : String :=
  "Package " ++ report.package ++ " indexed partially; skipped modules: "
    ++ String.intercalate ", " report.failed

/-- The session after warnings about packages of which modules have been left out. -/
def warnPartial (session : Session) (reports : List Session.LoadReport) : Session :=
  (reports.filter fun report => report.failed != []).foldl
    (fun session report => session.note .warning .commandLine (partialMessage report)) session

/-- A chunk of a page as it is printed. -/
def chunkJson : Docs.Chunk → Json
  | .prose text => .object [("prose", .string text)]
  | .entry name _ => .object [("entry", .string name)]

/-- The line of a page. -/
def pageLine (package : String) (page : Catalog.Page) : String :=
  Json.text <| .object
    [("chunks", .array (page.chunks.map chunkJson)), ("module", .string page.module),
      ("package", .string package)]

/-- The lines of the pages of packages. -/
def pageLines (session : Session) (reports : List Session.LoadReport) : List String :=
  reports.flatMap fun report =>
    (session.catalog.pages report.package).map (pageLine report.package)

/-- The line of a result. -/
def resultLine (result : Session.Result) : String :=
  Json.text <| .object
    [("doc_text", .string result.entry.doc), ("module_name", .string result.entry.module),
      ("name", .string result.entry.name),
      ("normalized_signature", .string result.normalizedSignature),
      ("package_id", .string result.entry.package),
      ("score", (result.score.map fun score => Json.int score).getD .null),
      ("signature", .string result.entry.signature)]

/-- The message about a query that has been answered. -/
def answeredMessage (response : Session.Response) : String :=
  response.mode.text ++ " search for " ++ Text.quoted response.query ++ ": "
    ++ toString response.results.length ++ " of " ++ toString response.candidates ++ " entries"

/-- What is to be printed. -/
structure Answer where
  /-- The lines. -/
  lines : List String
  /-- The message that follows when all of them have been printed. -/
  closing? : Option String := none

/-- The answer to the query, and the session after it. -/
def answerQuery (platform : Platform) (session : Session) (arguments : Arguments) :
    Except Breakdown Answer × Session :=
  match session.search arguments.limit? arguments.query with
  | (.error error, session) => (.error (.foreign error), session)
  | (.ok response, session) =>
      if platform.admits arguments.query response.results then
        (.ok { lines := response.results.map resultLine, closing? := answeredMessage response },
          session)
      else (.error .refusedAnswer, session)

/-- The answer to what the arguments ask for, and the session after that. -/
def produce (platform : Platform) (session : Session) (reports : List Session.LoadReport)
    (arguments : Arguments) : Except Breakdown Answer × Session :=
  if arguments.chunks then (.ok { lines := pageLines session reports }, session)
  else answerQuery platform session arguments

/-- Which messages are written for the arguments and the settings, and how. -/
def loggingFor (arguments : Arguments) (settings : Settings) : Log.Configuration :=
  let level :=
    match arguments.logLevel with
    | none | some "" => settings.logLevel
    | some name => name
  .ofNames level settings.logJson []

/-- The end of a run that failed before anything was printed. -/
def failed (session : Session) (message : String) : Report :=
  { exit := 1, notices := (session.note .error .commandLine message).notices }

/-- The end of a run that broke off. -/
def brokenOff (session : Session) (breakdown : Breakdown) : Report :=
  { exit := 1, notices := session.notices, breakdown := some breakdown }

/-- The end of a run that has printed its lines: the metrics are written if they are asked for. -/
def conclude (platform : Platform) (disk : Disk) (arguments : Arguments) (lines : List String)
    (session : Session) : Report :=
  let done : Report := { exit := 0, output := .lines lines, notices := session.notices }
  match arguments.metricsFile with
  | none => done
  | some path =>
      -- What is to be written is made before the file is opened.
      if session.tally.moduleFailures.keys.all platform.isClean then
        match disk.obstacle? path with
        | none => { done with metrics := some (path, Metric.exposition session.tally) }
        | some (.noPath why) => { done with exit := 1, breakdown := some (.noPath why) }
        | some error =>
            let message := "Failed to write metrics: " ++ error.message path
            { done with exit := 1, notices := (session.note .error .commandLine message).notices }
      else { done with exit := 1, breakdown := some .unwritable }

/-- The end of a run that has an answer: its lines are printed up to the first that cannot be. -/
def print (platform : Platform) (disk : Disk) (arguments : Arguments) (answer : Answer)
    (session : Session) : Report :=
  match answer.lines.find? fun line => !platform.prints line with
  | some line =>
      { brokenOff session (.unprintable line) with
        output := .lines (answer.lines.takeWhile platform.prints) }
  | none =>
      conclude platform disk arguments answer.lines <|
        match answer.closing? with
        | none => session
        | some message => session.note .info .commandLine message

/-- A run with accepted arguments and valid settings, once tracing and metrics have started. -/
def runStarted (platform : Platform) (disk : Disk) (arguments : Arguments)
    (settings : Settings) : Report :=
  let session := (Session.start settings).note .debug .tracing
    ("Tracing initialized for service: " ++ settings.serviceName)
  if arguments.maxResults = some .hollow then brokenOff session .hollowLimit
  else
    match complaint? arguments with
    | some message => failed session message
    | none =>
        match loadPackages disk session arguments.docs with
        | (.error .unnamed, session) => brokenOff session .hollowDocs
        | (.error error, session) => failed session ("Failed to load docs: " ++ error.message)
        | (.ok reports, session) =>
            match produce platform (warnPartial session reports) reports arguments with
            | (.error breakdown, session) => brokenOff session breakdown
            | (.ok answer, session) => print platform disk arguments answer session

/-- A run with accepted arguments and valid settings. -/
def runConfigured (platform : Platform) (disk : Disk) (arguments : Arguments)
    (settings : Settings) : Report :=
  match platform.telemetry? with
  | some reason => brokenOff (Session.start settings) (.telemetry reason)
  | none => runStarted platform disk arguments settings

/-- The assignments of the file of assignments, none if there is no such file. -/
def assignments? (invocation : Invocation) :
    Except Breakdown (List (String × Option String)) :=
  match invocation.disk.isFile assignmentFile with
  | .ok false => .ok []
  | .error error => if error.isAbsence then .ok [] else .error (.inaccessible error)
  | .ok true =>
      match invocation.disk.read assignmentFile with
      | .error error => .error (.inaccessible error)
      | .ok octets =>
          match Text.decode octets with
          | .error found => .error (.undecodable found)
          | .ok text =>
              .ok (invocation.platform.readAssignments invocation.environment text)

/-- A run with accepted arguments. -/
def runAccepted (invocation : Invocation) (arguments : Arguments) : Report :=
  match assignments? invocation with
  | .error breakdown => { exit := 1, breakdown }
  | .ok assignments =>
      match Settings.load [] invocation.environment assignments with
      | .error issues => { exit := 1, issues }
      | .ok settings =>
          { runConfigured invocation.platform invocation.disk arguments settings with
            logging := loggingFor arguments settings }

/-- Run the program. -/
def run (invocation : Invocation) : Report :=
  match parseArguments invocation.arguments with
  | .help => { exit := 0, output := .help }
  | .misused => { exit := 2 }
  | .accepted arguments => runAccepted invocation arguments

end CommandLine
end SignatureSearch
