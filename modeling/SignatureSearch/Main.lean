import SignatureSearch.CommandLine.Run

/-!
# The program

Reads what the command line names, runs it, and prints what comes of it: lines to standard output,
messages to standard error.
-/

namespace SignatureSearch

/-- How the program is used. -/
def usage : String :=
  "usage: docs-type-search [-h] --docs [PACKAGE=]PATH [--max-results MAX_RESULTS] [--chunks]\n"
    ++ "                        [--metrics-file METRICS_FILE] [--log-level LOG_LEVEL]\n"
    ++ "                        [query]\n"

/-- What the program is for, and what its arguments mean. -/
def helpText : String :=
  usage
    ++ "\nSearch package documentation by name or by type signature\n\n"
    ++ "positional arguments:\n"
    ++ "  query                 Name fragment (e.g. 'map') or type signature\n"
    ++ "                        (e.g. 'a -> List a')\n\n"
    ++ "options:\n"
    ++ "  -h, --help            show this help message and exit\n"
    ++ "  --docs [PACKAGE=]PATH\n"
    ++ "                        docs.json file to index; repeat for more packages\n"
    ++ "  --max-results MAX_RESULTS\n"
    ++ "                        Maximum results to print (defaults to\n"
    ++ "                        DOCS_TYPE_SEARCH_MAX_RESULTS)\n"
    ++ "  --chunks              Print each module's documentation chunks instead of searching\n"
    ++ "  --metrics-file METRICS_FILE\n"
    ++ "                        Write Prometheus metrics for this run to a file\n"
    ++ "  --log-level LOG_LEVEL\n"
    ++ "                        Override the configured log level\n"

/-- What is wrong with the configuration, in words. -/
def configurationText (issues : List Issue) : String :=
  let lines := issues.map fun issue =>
    String.intercalate "." issue.location ++ " [" ++ issue.kind.code ++ "]\n"
  "Invalid configuration: " ++ toString issues.length ++ " validation error(s)\n"
    ++ String.join lines

/-- A message as a line. -/
def noticeText (json : Bool) (notice : Log.Notice) : String :=
  let level := Log.levelName notice.severity.level
  if json then
    Json.text (.object
      [("level", .string level), ("logger", .string notice.source.logger),
        ("message", .string notice.message)])
  else level ++ " [" ++ notice.source.logger ++ "] " ++ notice.message

/-- The number that the system has for a failure, and the reason in words. -/
def failureOf : IO.Error → Nat × String
  | .noFileOrDirectory _ number reason | .interrupted _ number reason => (number.toNat, reason)
  | .alreadyExists _ number reason | .invalidArgument _ number reason
  | .permissionDenied _ number reason | .resourceExhausted _ number reason
  | .inappropriateType _ number reason | .noSuchThing _ number reason => (number.toNat, reason)
  | .otherError number reason | .resourceBusy number reason | .resourceVanished number reason
  | .unsupportedOperation number reason | .hardwareFault number reason
  | .unsatisfiedConstraints number reason | .illegalOperation number reason
  | .protocolError number reason | .timeExpired number reason => (number.toNat, reason)
  | .unexpectedEof => (0, "unexpected end of file")
  | .userError reason => (0, reason)

/-- Try to use the file at a path. -/
def tryFile {α : Type} (path : Path) (action : IO α) : IO (Except FileError α) := do
  if path.chars.contains (Char.ofNat 0) then return .error (.noPath .nullByte)
  match ← action.toBaseIO with
  | .ok value => return .ok value
  | .error error =>
    let (number, reason) := failureOf error
    return .error (.ofNumber number reason)

/-- The files that a run may read. -/
def readable (arguments : List String) : List Path :=
  match CommandLine.parseArguments arguments with
  | .accepted accepted =>
      CommandLine.assignmentFile
        :: accepted.docs.filterMap fun
          | .given argument => some (CommandLine.DocsArgument.ofText argument).path
          | .hollow => none
  | _ => []

/-- The variables of the environment that settings are taken from. -/
def environment : IO (List (String × String)) := do
  let names := Settings.names.map fun name => (Settings.environmentStem ++ name).map Char.toUpper
  let values ← names.mapM fun name => return (name, ← IO.getEnv name)
  return values.filterMap fun row => row.2.map fun value => (row.1, value)

/-- Run the program with files that have been read; metrics that cannot be written are reported. -/
def runWith (invocation : CommandLine.Invocation) : IO CommandLine.Report := do
  let report := CommandLine.run invocation
  match report.metrics with
  | none => return report
  | some (path, text) =>
    match ← tryFile path (IO.FS.writeFile path.text text) with
    | .ok () => return report
    | .error error =>
      let disk := { invocation.disk with obstacle? := fun _ => some error }
      return CommandLine.run { invocation with disk }

/-- Print what comes of a run. -/
def printReport (report : CommandLine.Report) : IO Unit := do
  match report.output with
  | .help => IO.print helpText
  | .lines lines => for line in lines do IO.println line
  if report.exit = 2 then IO.eprint usage
  unless report.issues.isEmpty do IO.eprint (configurationText report.issues)
  for notice in report.written do IO.eprintln (noticeText report.logging.json notice)
  if let some breakdown := report.breakdown then IO.eprintln breakdown.message

end SignatureSearch

/-- The program. -/
def main (arguments : List String) : IO UInt32 := do
  let reads ← (SignatureSearch.readable arguments).mapM fun path =>
    return (path, ← SignatureSearch.tryFile path (IO.FS.readBinFile path.text))
  let read := fun path =>
    match reads.lookup path with
    | some (.ok octets) => .ok octets.toList
    | some (.error error) => .error error
    | none => .error .notFound
  let report ← SignatureSearch.runWith
    { arguments
      environment := ← SignatureSearch.environment
      disk := { read, obstacle? := fun _ => none } }
  SignatureSearch.printReport report
  return UInt32.ofNat report.exit
