import Mathlib.Data.List.TakeWhile
import SignatureSearch.Proofs.CommandLine.Deliveries
import SignatureSearch.Proofs.Session.Rankings

/-!
# What a run prints

A run with an answer prints the lines that show it: all of them, or those before the first that
cannot be printed.  Any other run prints nothing and fails: one that is configured or used wrongly,
one of whose documentation files cannot be loaded, and one that breaks off before it has an answer.
The exit code is zero if and only if everything has been printed and the metrics, where they are
asked for, have been written.
-/

namespace SignatureSearch
namespace CommandLine

open Catalog (Delivery)

/-- The arguments ask for something. -/
structure Asks (arguments : Arguments) : Prop where
  /-- A limit leaves room for a result. -/
  limit : ∀ value ∈ arguments.maxResults, ∃ limit : Int, value = .given limit ∧ 1 ≤ limit
  /-- There is a query, unless pages are asked for. -/
  query : arguments.chunks = true ∨ Text.isAllBlank arguments.query.toList = false

/-- The results that packages give for the query, as many as the limit allows. -/
def Finds (arguments : Arguments) (settings : Settings) (deliveries : List Delivery)
    (results : List Session.Result) : Prop :=
  let entries := deliveries.flatMap fun delivery => delivery.batch.entries
  ∃ found,
    Search.answers settings.nameSearchIncludesTypes (Signature.parse arguments.query) entries =
      .ok found ∧
    results = (Search.cut (some (arguments.limit?.getD settings.maxResults.1)) found).map
      (Session.resultOf entries)

/-- The lines that show what packages answer to the arguments: their pages, or their results. -/
def Shows (arguments : Arguments) (settings : Settings) (deliveries : List Delivery)
    (lines : List String) : Prop :=
  if arguments.chunks then
    lines = deliveries.flatMap fun delivery =>
      delivery.batch.pages.map (pageLine delivery.package)
  else ∃ results, Finds arguments settings deliveries results ∧ lines = results.map resultLine

/-- There are octets for the names of the packages of which modules have been left out. -/
def Labelled (platform : Platform) (deliveries : List Delivery) : Prop :=
  ∀ delivery ∈ deliveries, delivery.batch.failed ≠ [] → platform.isClean delivery.package = true

section Conditions

variable (platform : Platform) (disk : Disk) (arguments : Arguments) (settings : Settings)
  (deliveries : List Delivery)

/-- The answer to the query would hold a text that no answer may hold. -/
structure Refuses : Prop where
  /-- There is a query to answer. -/
  queried : arguments.chunks = false
  /-- What it finds may not be its answer. -/
  rejected : ∃ results, Finds arguments settings deliveries results ∧
    platform.admits arguments.query results = false

/-- Packages answer what the arguments ask for. -/
structure Answers : Prop where
  /-- Tracing and metrics start. -/
  starts : platform.telemetry? = none
  /-- Something is asked for. -/
  asks : Asks arguments
  /-- The packages are those that the arguments name. -/
  delivers : Delivers disk [] arguments.docs deliveries
  /-- The answer may be given. -/
  admitted : ¬ Refuses platform arguments settings deliveries

/-- All lines can be printed, and the metrics can be written if they are asked for. -/
structure Completes (lines : List String) : Prop where
  /-- Every line can be printed. -/
  printed : ∀ line ∈ lines, platform.prints line = true
  /-- There are octets for the metrics, and nothing stands in the way of their file. -/
  recorded : ∀ path ∈ arguments.metricsFile,
    Labelled platform deliveries ∧ disk.obstacle? path = none

/-- What makes a run break off that has lines to print. -/
inductive Spoils (lines : List String) : Breakdown → Prop
  /-- A line cannot be printed, and it is the first such. -/
  | line {line : String} (first : (lines.find? fun line => !platform.prints line) = some line) :
      Spoils lines (.unprintable line)
  /-- Everything is printed, and there are no octets for the metrics. -/
  | labels (printed : ∀ line ∈ lines, platform.prints line = true)
      (asked : arguments.metricsFile.isSome) (bare : ¬ Labelled platform deliveries) :
      Spoils lines .unwritable
  /-- Everything is printed, and no path is the path of the file for metrics. -/
  | metrics {path : Path} {why : NoPath} (printed : ∀ line ∈ lines, platform.prints line = true)
      (named : arguments.metricsFile = some path) (labelled : Labelled platform deliveries)
      (no_path : disk.obstacle? path = some (.noPath why)) : Spoils lines (.noPath why)

end Conditions

/-- What makes a configured run break off. -/
inductive BreaksOff (platform : Platform) (disk : Disk) (arguments : Arguments)
    (settings : Settings) : Breakdown → Prop
  /-- Tracing or metrics do not start. -/
  | telemetry {reason : String} (fails : platform.telemetry? = some reason) :
      BreaksOff platform disk arguments settings (.telemetry reason)
  /-- The limit is hollow. -/
  | limit (starts : platform.telemetry? = none) (hollow : arguments.maxResults = some .hollow) :
      BreaksOff platform disk arguments settings .hollowLimit
  /-- The first documentation file that cannot be loaded has a hollow name. -/
  | docs (starts : platform.telemetry? = none) (asks : Asks arguments)
      (stumbles : Stumbles disk [] arguments.docs) :
      BreaksOff platform disk arguments settings .hollowDocs
  /-- The answer may not be given. -/
  | answer {deliveries : List Delivery} (starts : platform.telemetry? = none)
      (asks : Asks arguments) (delivers : Delivers disk [] arguments.docs deliveries)
      (refuses : Refuses platform arguments settings deliveries) :
      BreaksOff platform disk arguments settings .refusedAnswer
  /-- There is an answer, and something is wrong with its lines or the metrics. -/
  | printing {deliveries : List Delivery} {lines : List String} {breakdown : Breakdown}
      (answers : Answers platform disk arguments settings deliveries)
      (shows_lines : Shows arguments settings deliveries lines)
      (spoils : Spoils platform disk arguments deliveries lines breakdown) :
      BreaksOff platform disk arguments settings breakdown

/-! ## Checks -/

theorem complaint?_eq_none_iff {arguments : Arguments}
    (firm : arguments.maxResults ≠ some .hollow) :
    complaint? arguments = none ↔ Asks arguments := by
  have limited : arguments.limit?.any (· < 1) = true ↔
      ¬ ∀ value ∈ arguments.maxResults, ∃ limit : Int, value = .given limit ∧ 1 ≤ limit := by
    rw [Arguments.limit?]
    rcases given : arguments.maxResults with _ | ⟨limit | _⟩
    · simp
    · simp
    · exact absurd given firm
  have queried : (!arguments.chunks && Text.isAllBlank arguments.query.toList) = true ↔
      ¬ (arguments.chunks = true ∨ Text.isAllBlank arguments.query.toList = false) := by
    simp
  rw [complaint?]
  constructor
  · intro quiet
    split at quiet
    · cases quiet
    · rename_i limit
      split at quiet
      · cases quiet
      · rename_i query
        exact ⟨not_not.mp (mt limited.mpr limit), not_not.mp (mt queried.mpr query)⟩
  · intro asks
    rw [if_neg fun exceeded => limited.mp exceeded asks.limit,
      if_neg fun missing => queried.mp missing asks.query]

theorem Asks.firm {arguments : Arguments} (asks : Asks arguments) :
    arguments.maxResults ≠ some .hollow := by
  intro hollow
  obtain ⟨limit, same, -⟩ := asks.limit .hollow hollow
  cases same

/-! ## Lines -/

theorem Finds.unique {arguments : Arguments} {settings : Settings} {deliveries : List Delivery}
    {results others : List Session.Result} (one : Finds arguments settings deliveries results)
    (other : Finds arguments settings deliveries others) : results = others := by
  obtain ⟨found, answered, rfl⟩ := one
  obtain ⟨found', answered', rfl⟩ := other
  rw [Except.ok.inj (answered.symm.trans answered')]

theorem Shows.unique {arguments : Arguments} {settings : Settings} {deliveries : List Delivery}
    {lines others : List String} (one : Shows arguments settings deliveries lines)
    (other : Shows arguments settings deliveries others) : lines = others := by
  rw [Shows] at one other
  split at one
  · rename_i chunks
    rw [if_pos chunks] at other
    exact one.trans other.symm
  · rename_i chunks
    rw [if_neg chunks] at other
    obtain ⟨results, finds, rfl⟩ := one
    obtain ⟨results', finds', rfl⟩ := other
    rw [finds.unique finds']

section Lines

variable {settings : Settings} {deliveries : List Delivery} {session : Session}

theorem pageLines_eq (stocked : Stocked settings deliveries session) :
    pageLines session (deliveries.map fun delivery => .ofBatch delivery.batch) =
      deliveries.flatMap fun delivery => delivery.batch.pages.map (pageLine delivery.package) := by
  rw [pageLines, List.flatMap_map]
  refine List.flatMap_congr fun delivery listed => ?_
  have package : (Session.LoadReport.ofBatch delivery.batch).package = delivery.package :=
    Catalog.Batch.package_ofModules _ _
  rw [package, stocked.holds.pages_eq listed]

theorem Stocked.warnPartial (stocked : Stocked settings deliveries session)
    (reports : List Session.LoadReport) :
    Stocked settings deliveries (warnPartial session reports) := by
  rw [CommandLine.warnPartial]
  induction reports.filter (fun report => report.failed != []) generalizing session with
  | nil => exact stocked
  | cons report reports ih => exact ih (stocked.note ..)

/-- The query finds results, and they are its answer unless the answer may not be given. -/
theorem answerQuery_cases (stocked : Stocked settings deliveries session) (platform : Platform)
    (arguments : Arguments) :
    (answerQuery platform session arguments).2.tally.moduleFailures =
        session.tally.moduleFailures ∧
      ∃ results, Finds arguments settings deliveries results ∧
        if platform.admits arguments.query results then
          ∃ answer, (answerQuery platform session arguments).1 = .ok answer ∧
            answer.lines = results.map resultLine
        else (answerQuery platform session arguments).1 = .error .refusedAnswer := by
  obtain ⟨found, response, after, answered, searched, results⟩ :=
    Session.search_spec stocked.faithful arguments.limit? arguments.query
  have counted := session.ofLoads_search arguments.limit? arguments.query
  rw [searched] at counted
  have same : after.tally.moduleFailures = session.tally.moduleFailures :=
    congrArg (·.2.1) counted
  rw [stocked.settings, stocked.holds.entries] at answered
  rw [Session.limitOf, stocked.settings, stocked.holds.entries] at results
  rw [answerQuery, searched]
  dsimp only
  split
  · rename_i admitted
    exact ⟨same, response.results, ⟨found, answered, results⟩,
      by rw [if_pos admitted]; exact ⟨_, rfl, rfl⟩⟩
  · rename_i rejected
    exact ⟨same, response.results, ⟨found, answered, results⟩, by rw [if_neg rejected]⟩

/-- There is an answer whose lines show what is asked for, unless it may not be given. -/
theorem produce_cases (stocked : Stocked settings deliveries session) (platform : Platform)
    (arguments : Arguments) :
    let produced := produce platform session
      (deliveries.map fun delivery => .ofBatch delivery.batch) arguments
    produced.2.tally.moduleFailures = session.tally.moduleFailures ∧
      ((Refuses platform arguments settings deliveries ∧ produced.1 = .error .refusedAnswer) ∨
        (¬ Refuses platform arguments settings deliveries ∧
          ∃ answer, produced.1 = .ok answer ∧
            Shows arguments settings deliveries answer.lines)) := by
  intro produced
  by_cases chunks : arguments.chunks = true
  · have pages : produced = (.ok { lines := pageLines session _ }, session) := if_pos chunks
    rw [pages]
    refine ⟨rfl, .inr ⟨fun refuses => ?_, _, rfl, ?_⟩⟩
    · exact Bool.false_ne_true (refuses.queried.symm.trans chunks)
    · rw [Shows, if_pos chunks]
      exact pageLines_eq stocked
  · have queried : produced = answerQuery platform session arguments := if_neg chunks
    obtain ⟨counted, results, finds, answered⟩ := answerQuery_cases stocked platform arguments
    rw [queried]
    refine ⟨counted, ?_⟩
    split at answered
    · rename_i admitted
      obtain ⟨answer, given, lines⟩ := answered
      refine .inr ⟨fun refuses => ?_, answer, given, ?_⟩
      · obtain ⟨others, same, rejected⟩ := refuses.rejected
        rw [same.unique finds, admitted] at rejected
        cases rejected
      · rw [Shows, if_neg chunks]
        exact ⟨results, finds, lines⟩
    · rename_i rejected
      exact .inl ⟨⟨eq_false_of_ne_true chunks, results, finds, eq_false_of_ne_true rejected⟩,
        answered⟩

end Lines

/-! ## Printing -/

/-- A report on a run that has lines to print. -/
structure Prints (platform : Platform) (disk : Disk) (arguments : Arguments)
    (deliveries : List Delivery) (lines : List String) (report : Report) : Prop where
  /-- The lines are printed up to the first that cannot be. -/
  output : report.output = .lines (lines.takeWhile platform.prints)
  /-- The run succeeds if and only if nothing is left to do, and else fails. -/
  exit : report.exit = 0 ∧ Completes platform disk arguments deliveries lines ∨
    report.exit = 1 ∧ ¬ Completes platform disk arguments deliveries lines
  /-- It breaks off for the stated reasons only. -/
  breaks : ∀ breakdown, report.breakdown = some breakdown ↔
    Spoils platform disk arguments deliveries lines breakdown

section Printing

variable {platform : Platform} {disk : Disk} {arguments : Arguments} {settings : Settings}
  {deliveries : List Delivery} {session : Session}

theorem Stocked.labelled_iff (stocked : Stocked settings deliveries session)
    (platform : Platform) : session.tally.moduleFailures.keys.all platform.isClean = true ↔
      Labelled platform deliveries := by
  rw [List.all_eq_true]
  constructor
  · intro clean delivery listed failed
    exact clean _ ((stocked.failures _).mpr ⟨delivery, listed, rfl, failed⟩)
  · intro labelled package counted
    obtain ⟨delivery, listed, rfl, failed⟩ := (stocked.failures package).mp counted
    exact labelled delivery listed failed

theorem not_all_printed {lines : List String} {line : String}
    (first : (lines.find? fun line => !platform.prints line) = some line) :
    ¬ ∀ line ∈ lines, platform.prints line = true := by
  intro printed
  have unprinted := List.find?_some first
  rw [printed line (List.mem_of_find?_eq_some first)] at unprinted
  cases unprinted

section Lines

variable {lines : List String} (printed : ∀ line ∈ lines, platform.prints line = true)

include printed

theorem completes_iff : Completes platform disk arguments deliveries lines ↔
    ∀ path ∈ arguments.metricsFile, Labelled platform deliveries ∧ disk.obstacle? path = none :=
  ⟨fun completes => completes.recorded, fun recorded => ⟨printed, recorded⟩⟩

theorem spoils_iff {breakdown : Breakdown} :
    Spoils platform disk arguments deliveries lines breakdown ↔
      ∃ path, arguments.metricsFile = some path ∧
        (¬ Labelled platform deliveries ∧ breakdown = .unwritable ∨
          Labelled platform deliveries ∧ ∃ why, disk.obstacle? path = some (.noPath why) ∧
            breakdown = .noPath why) := by
  constructor
  · intro spoils
    cases spoils with
    | line first => exact absurd printed (not_all_printed first)
    | labels _ asked bare =>
        obtain ⟨path, named⟩ := Option.isSome_iff_exists.mp asked
        exact ⟨path, named, .inl ⟨bare, rfl⟩⟩
    | metrics _ named labelled no_path => exact ⟨_, named, .inr ⟨labelled, _, no_path, rfl⟩⟩
  · rintro ⟨path, named, ⟨bare, rfl⟩ | ⟨labelled, why, no_path, rfl⟩⟩
    · exact .labels printed (Option.isSome_of_eq_some named) bare
    · exact .metrics printed named labelled no_path

/-- What is printed stays printed, whatever comes of writing the metrics. -/
theorem prints_conclude
    (labels : session.tally.moduleFailures.keys.all platform.isClean = true ↔
      Labelled platform deliveries) :
    Prints platform disk arguments deliveries lines
      (conclude platform disk arguments lines session) := by
  have all : Output.lines lines = .lines (lines.takeWhile platform.prints) := by
    rw [List.takeWhile_eq_self_iff.mpr printed]
  rw [conclude]
  cases named : arguments.metricsFile with
  | none =>
      refine ⟨all, .inl ⟨rfl, (completes_iff printed).mpr ?_⟩, fun breakdown => ?_⟩
      · simp [named]
      · simp [spoils_iff printed, named]
  | some path =>
      dsimp only
      split
      · rename_i clean
        have labelled := labels.mp clean
        cases blocked : disk.obstacle? path with
        | none =>
            refine ⟨all, .inl ⟨rfl, (completes_iff printed).mpr ?_⟩, fun breakdown => ?_⟩
            · simp [named, labelled, blocked]
            · simp [spoils_iff printed, named, labelled, blocked]
        | some error =>
            have failed : ¬ Completes platform disk arguments deliveries lines := fun completes =>
              absurd ((completes.recorded path named).2.symm.trans blocked) nofun
            cases error with
            | noPath why =>
                refine ⟨all, .inr ⟨rfl, failed⟩, fun breakdown => ?_⟩
                simp [spoils_iff printed, named, labelled, blocked, eq_comm]
            | _ =>
                refine ⟨all, .inr ⟨rfl, failed⟩, fun breakdown => ?_⟩
                simp [spoils_iff printed, named, labelled, blocked]
      · rename_i unclean
        have bare := mt labels.mpr unclean
        refine ⟨all, .inr ⟨rfl, fun completes => bare (completes.recorded path named).1⟩,
          fun breakdown => ?_⟩
        simp [spoils_iff printed, named, bare, eq_comm]

end Lines

/-- The lines of an answer are printed up to the first that cannot be. -/
theorem prints_print (answer : Answer)
    (labels : session.tally.moduleFailures.keys.all platform.isClean = true ↔
      Labelled platform deliveries) :
    Prints platform disk arguments deliveries answer.lines
      (print platform disk arguments answer session) := by
  rw [print]
  cases first : answer.lines.find? fun line => !platform.prints line with
  | none =>
      have printed : ∀ line ∈ answer.lines, platform.prints line = true := by
        simpa using first
      refine prints_conclude printed ?_
      split <;> exact labels
  | some line =>
      have stops := not_all_printed first
      refine ⟨rfl, .inr ⟨rfl, fun completes => stops completes.printed⟩, fun breakdown => ?_⟩
      constructor
      · rintro ⟨⟩
        exact .line first
      · intro spoils
        cases spoils with
        | line other =>
            obtain rfl := Option.some.inj (first.symm.trans other)
            rfl
        | labels printed => exact absurd printed stops
        | metrics printed => exact absurd printed stops

end Printing

/-! ## Configured runs -/

/-- A report on a configured run. -/
structure PrintsAnswer (platform : Platform) (disk : Disk) (arguments : Arguments)
    (settings : Settings) (report : Report) : Prop where
  /-- Where there is an answer, the lines that show it are printed, up to the first that cannot be;
  and the run succeeds if and only if this is all of them and the metrics are written. -/
  all : ∀ deliveries, Answers platform disk arguments settings deliveries →
    ∃ lines, Shows arguments settings deliveries lines ∧
      report.output = .lines (lines.takeWhile platform.prints) ∧
      (report.exit = 0 ∧ Completes platform disk arguments deliveries lines ∨
        report.exit = 1 ∧ ¬ Completes platform disk arguments deliveries lines)
  /-- Otherwise the run fails and nothing is printed. -/
  nothing : (∀ deliveries, ¬ Answers platform disk arguments settings deliveries) →
    report.output = .lines [] ∧ report.exit = 1
  /-- It breaks off for the stated reasons only. -/
  breaks : ∀ breakdown, report.breakdown = some breakdown ↔
    BreaksOff platform disk arguments settings breakdown

section Configured

variable {platform : Platform} {disk : Disk} {arguments : Arguments} {settings : Settings}

/-- A run without an answer that breaks off. -/
theorem PrintsAnswer.of_broken {breakdown : Breakdown}
    (never : ∀ deliveries, ¬ Answers platform disk arguments settings deliveries)
    (breaks : BreaksOff platform disk arguments settings breakdown)
    (only : ∀ other, BreaksOff platform disk arguments settings other → breakdown = other)
    (session : Session) :
    PrintsAnswer platform disk arguments settings (brokenOff session breakdown) where
  all deliveries answers := absurd answers (never deliveries)
  nothing _ := ⟨rfl, rfl⟩
  breaks other := by
    constructor
    · rintro ⟨⟩
      exact breaks
    · intro found
      exact congrArg some (only other found)

/-- A run without an answer that ends with a message. -/
theorem PrintsAnswer.of_failed
    (never : ∀ deliveries, ¬ Answers platform disk arguments settings deliveries)
    (steady : ∀ breakdown, ¬ BreaksOff platform disk arguments settings breakdown)
    (session : Session) (message : String) :
    PrintsAnswer platform disk arguments settings (failed session message) where
  all deliveries answers := absurd answers (never deliveries)
  nothing _ := ⟨rfl, rfl⟩
  breaks breakdown := iff_of_false nofun (steady breakdown)

theorem printsAnswer_telemetry {reason : String} (fails : platform.telemetry? = some reason)
    (session : Session) : PrintsAnswer platform disk arguments settings
      (brokenOff session (.telemetry reason)) := by
  have stuck : platform.telemetry? ≠ none := by simp [fails]
  refine .of_broken (fun _ answers => stuck answers.starts) (.telemetry fails)
    (fun other found => ?_) session
  cases found with
  | telemetry same => rw [Option.some.inj (fails.symm.trans same)]
  | limit starts => exact absurd starts stuck
  | docs starts => exact absurd starts stuck
  | answer starts => exact absurd starts stuck
  | printing answers => exact absurd answers.starts stuck

/-- A run that starts and is not asked for anything breaks off at a hollow limit only. -/
theorem BreaksOff.hollow_of_not_asks {breakdown : Breakdown} (starts : platform.telemetry? = none)
    (idle : ¬ Asks arguments) (breaks : BreaksOff platform disk arguments settings breakdown) :
    breakdown = .hollowLimit ∧ arguments.maxResults = some .hollow := by
  cases breaks with
  | telemetry fails => simp [starts] at fails
  | limit _ hollow => exact ⟨rfl, hollow⟩
  | docs _ asks => exact absurd asks idle
  | answer _ asks => exact absurd asks idle
  | printing answers => exact absurd answers.asks idle

theorem printsAnswer_hollowLimit (starts : platform.telemetry? = none)
    (hollow : arguments.maxResults = some .hollow) (session : Session) :
    PrintsAnswer platform disk arguments settings (brokenOff session .hollowLimit) := by
  have idle : ¬ Asks arguments := fun asks => asks.firm hollow
  exact .of_broken (fun _ answers => idle answers.asks) (.limit starts hollow)
    (fun _ found => (found.hollow_of_not_asks starts idle).1.symm) session

theorem printsAnswer_complaint (starts : platform.telemetry? = none)
    (firm : arguments.maxResults ≠ some .hollow) (idle : ¬ Asks arguments) (session : Session)
    (message : String) :
    PrintsAnswer platform disk arguments settings (failed session message) :=
  .of_failed (fun _ answers => idle answers.asks)
    (fun _ found => firm (found.hollow_of_not_asks starts idle).2) session message

/-- A run that is asked for something and cannot load its documentation breaks off at a hollow name
only. -/
theorem BreaksOff.stumbles_of_never {breakdown : Breakdown} (starts : platform.telemetry? = none)
    (asks : Asks arguments) (never : ∀ deliveries, ¬ Delivers disk [] arguments.docs deliveries)
    (breaks : BreaksOff platform disk arguments settings breakdown) :
    breakdown = .hollowDocs ∧ Stumbles disk [] arguments.docs := by
  cases breaks with
  | telemetry fails => simp [starts] at fails
  | limit _ hollow => exact absurd hollow asks.firm
  | docs _ _ stumbles => exact ⟨rfl, stumbles⟩
  | answer _ _ delivers => exact absurd delivers (never _)
  | printing answers => exact absurd answers.delivers (never _)

section Unloaded

variable (starts : platform.telemetry? = none) (asks : Asks arguments)
  (never : ∀ deliveries, ¬ Delivers disk [] arguments.docs deliveries)

include starts asks never

theorem printsAnswer_stumbles (stumbles : Stumbles disk [] arguments.docs) (session : Session) :
    PrintsAnswer platform disk arguments settings (brokenOff session .hollowDocs) :=
  .of_broken (fun deliveries answers => never deliveries answers.delivers)
    (.docs starts asks stumbles)
    (fun _ found => (found.stumbles_of_never starts asks never).1.symm) session

theorem printsAnswer_unloaded (steady : ¬ Stumbles disk [] arguments.docs) (session : Session)
    (message : String) :
    PrintsAnswer platform disk arguments settings (failed session message) :=
  .of_failed (fun deliveries answers => never deliveries answers.delivers)
    (fun _ found => steady (found.stumbles_of_never starts asks never).2) session message

end Unloaded

section Loaded

variable {deliveries : List Delivery} (starts : platform.telemetry? = none)
  (asks : Asks arguments) (delivers : Delivers disk [] arguments.docs deliveries)

include starts asks delivers

/-- A run that has loaded its documentation breaks off when its answer may not be given, or else at
its lines or the metrics. -/
theorem BreaksOff.of_delivers {breakdown : Breakdown}
    (breaks : BreaksOff platform disk arguments settings breakdown) :
    (Refuses platform arguments settings deliveries ∧ breakdown = .refusedAnswer) ∨
      (¬ Refuses platform arguments settings deliveries ∧
        ∃ lines, Shows arguments settings deliveries lines ∧
          Spoils platform disk arguments deliveries lines breakdown) := by
  cases breaks with
  | telemetry fails => simp [starts] at fails
  | limit _ hollow => exact absurd hollow asks.firm
  | docs _ _ stumbles => exact absurd stumbles delivers.not_stumbles
  | answer _ _ other refuses => exact .inl ⟨delivers.unique other ▸ refuses, rfl⟩
  | printing answers shows_lines spoils =>
      obtain rfl := delivers.unique answers.delivers
      exact .inr ⟨answers.admitted, _, shows_lines, spoils⟩

theorem printsAnswer_refused (refuses : Refuses platform arguments settings deliveries)
    (session : Session) :
    PrintsAnswer platform disk arguments settings (brokenOff session .refusedAnswer) := by
  have never (others : List Delivery) :
      ¬ Answers platform disk arguments settings others := fun answers =>
    answers.admitted (delivers.unique answers.delivers ▸ refuses)
  refine .of_broken never (.answer starts asks delivers refuses) (fun other found => ?_) session
  rcases found.of_delivers starts asks delivers with ⟨-, rfl⟩ | ⟨admitted, -⟩
  · rfl
  · exact absurd refuses admitted

theorem printsAnswer_of_prints (admitted : ¬ Refuses platform arguments settings deliveries)
    {lines : List String} (shows_lines : Shows arguments settings deliveries lines)
    {report : Report} (prints : Prints platform disk arguments deliveries lines report) :
    PrintsAnswer platform disk arguments settings report := by
  have answers : Answers platform disk arguments settings deliveries :=
    ⟨starts, asks, delivers, admitted⟩
  refine ⟨fun others other => ?_, fun never => absurd answers (never deliveries),
    fun breakdown => (prints.breaks breakdown).trans ⟨.printing answers shows_lines, ?_⟩⟩
  · obtain rfl := delivers.unique other.delivers
    exact ⟨lines, shows_lines, prints.output, prints.exit⟩
  · intro found
    rcases found.of_delivers starts asks delivers with
      ⟨refuses, -⟩ | ⟨-, others, other_lines, spoils⟩
    · exact absurd refuses admitted
    · rw [shows_lines.unique other_lines]
      exact spoils

end Loaded

theorem printsAnswer_runStarted (starts : platform.telemetry? = none) :
    PrintsAnswer platform disk arguments settings
      (runStarted platform disk arguments settings) := by
  have stocked := (stocked_start settings).note .debug .tracing
    ("Tracing initialized for service: " ++ settings.serviceName)
  rw [runStarted]
  split
  · rename_i hollow
    exact printsAnswer_hollowLimit starts hollow _
  · rename_i firm
    have complains := complaint?_eq_none_iff firm
    cases complaint : complaint? arguments with
    | some message =>
        rw [complaint] at complains
        exact printsAnswer_complaint starts firm (mt complains.mpr nofun) _ message
    | none =>
        have asks : Asks arguments := complains.mp complaint
        dsimp only
        rcases loadPackages_cases stocked disk arguments.docs with
          ⟨deliveries, after, delivers, loaded, kept⟩ | ⟨error, after, failed, unnamed, never⟩
        · rw [loaded]
          rw [List.nil_append] at kept
          have warned := kept.warnPartial (deliveries.map fun delivery => .ofBatch delivery.batch)
          have step := produce_cases warned platform arguments
          dsimp only at step ⊢
          generalize produce platform _ _ arguments = produced at step ⊢
          obtain ⟨result, last⟩ := produced
          rcases step with ⟨counted, ⟨refuses, rfl⟩ | ⟨admitted, answer, rfl, shows_lines⟩⟩
          · exact printsAnswer_refused starts asks delivers refuses last
          · have labels := warned.labelled_iff platform
            rw [← counted] at labels
            exact printsAnswer_of_prints starts asks delivers admitted shows_lines
              (prints_print answer labels)
        · rw [failed]
          cases error with
          | unnamed => exact printsAnswer_stumbles starts asks never (unnamed.mp rfl) after
          | _ => exact printsAnswer_unloaded starts asks never (mt unnamed.mpr nofun) after _

/-- Everything that a configured run does. -/
theorem printsAnswer_runConfigured (platform : Platform) (disk : Disk) (arguments : Arguments)
    (settings : Settings) : PrintsAnswer platform disk arguments settings
      (runConfigured platform disk arguments settings) := by
  rw [runConfigured]
  cases starts : platform.telemetry? with
  | some reason => exact printsAnswer_telemetry starts _
  | none => exact printsAnswer_runStarted starts

end Configured

/-! ## Whole runs -/

/-- **What is printed.**  Where the file of assignments cannot be read or is no text the program
breaks off, and where the settings are refused it fails, and nothing is printed either way.
Otherwise it prints the lines that show its answer, up to the first that cannot be printed, or
nothing where it has none, and breaks off for the stated reasons only. -/
theorem run_accepted {invocation : Invocation} {arguments : Arguments}
    (accepted : parseArguments invocation.arguments = .accepted arguments) :
    (∀ breakdown, assignments? invocation = .error breakdown →
      (run invocation).output = .lines [] ∧ (run invocation).exit = 1 ∧
        (run invocation).breakdown = some breakdown) ∧
      (∀ assignments issues, assignments? invocation = .ok assignments →
        Settings.load [] invocation.environment assignments = .error issues →
        (run invocation).output = .lines [] ∧ (run invocation).exit = 1 ∧
          (run invocation).breakdown = none) ∧
      ∀ assignments settings, assignments? invocation = .ok assignments →
        Settings.load [] invocation.environment assignments = .ok settings →
        PrintsAnswer invocation.platform invocation.disk arguments settings (run invocation) := by
  have started : run invocation = runAccepted invocation arguments := by
    rw [run, accepted]
  rw [started, runAccepted]
  refine ⟨fun breakdown missing => ?_, fun assignments issues assigned refused => ?_,
    fun assignments settings assigned loaded => ?_⟩
  · rw [missing]
    exact ⟨rfl, rfl, rfl⟩
  · rw [assigned]
    dsimp only
    rw [refused]
    exact ⟨rfl, rfl, rfl⟩
  · rw [assigned]
    dsimp only
    rw [loaded]
    obtain ⟨all, nothing, breaks⟩ :=
      printsAnswer_runConfigured invocation.platform invocation.disk arguments settings
    exact ⟨all, nothing, breaks⟩

/-- Two files of one package: nothing is printed, although the first of them can be loaded. -/
theorem run_accepted_twice :
    let invocation : Invocation :=
      { arguments := ["--docs", "core=a.json", "--docs", "core=b.json", "--chunks"]
        disk :=
          { read := fun path =>
              if path = assignmentFile then .error .notFound else .ok "[]".toUTF8.toList
            obstacle? := fun _ => none } }
    (run invocation).output = .lines [] ∧ (run invocation).exit = 1 := by
  intro invocation
  have accepted : parseArguments invocation.arguments =
      .accepted { docs := [.given "core=a.json", .given "core=b.json"], chunks := true } := by
    decide +kernel
  obtain ⟨-, -, configured⟩ := run_accepted accepted
  have report := configured [] {} (by rfl) (by rfl)
  refine report.nothing fun deliveries answers => ?_
  obtain ⟨read, distinct⟩ := answers.delivers
  have sizes := congrArg List.length read
  rcases deliveries with _ | ⟨first, _ | ⟨second, rest⟩⟩
  · cases sizes
  · cases sizes
  · simp only [List.map_cons, List.cons.injEq] at read
    have same : first.package = second.package := by
      rw [package_of_delivery? read.1, package_of_delivery? read.2.1]
      decide +kernel
    simp [same] at distinct

/-- Not every run with accepted arguments ends with a message: the file of assignments may be no
text. -/
theorem run_accepted_undecodable :
    ¬ ∀ (invocation : Invocation) (arguments : Arguments),
      parseArguments invocation.arguments = .accepted arguments →
        (run invocation).breakdown = none := by
  intro always
  have ended := always
    { arguments := ["--docs", "d.json", "f"]
      disk :=
        { read := fun path => if path = assignmentFile then .ok [0xff] else .error .notFound
          obstacle? := fun _ => none } }
    { query := "f", docs := [.given "d.json"] } (by decide +kernel)
  revert ended
  decide +kernel

/-- The name of the second package is no text; the page of the first stays printed. -/
example :
    let report := run
      { arguments := ["--docs", "a=a.json", "--docs", "\uE000=b.json", "--chunks"]
        disk :=
          { read := fun path =>
              if path = assignmentFile then .error .notFound
              else .ok "[\x7b\"name\":\"M\"\x7d]".toUTF8.toList
            obstacle? := fun _ => none }
        platform := { isEscape := fun c => c = '\uE000' } }
    report.output = .lines ["\x7b\"chunks\":[],\"module\":\"M\",\"package\":\"a\"\x7d"] ∧
      report.exit = 1 := by
  decide +kernel

end CommandLine
end SignatureSearch
