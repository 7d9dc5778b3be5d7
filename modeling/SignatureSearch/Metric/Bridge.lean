import SignatureSearch.Metric.Amount
import SignatureSearch.Table

/-!
# Metrics kept in two stores

A metric is recorded twice: in series that are scraped, one to each set of labels, and as a sequence
of calls that are pushed.  A counter grows, a gauge is set, and a histogram observes.  A gauge is
pushed as the change from its previous value, when there is one; what that value was is remembered
apart from what is scraped, under the labels in the order of their names.

Both stores are libraries.  It is assumed of the scraped one that a series appears as soon as its
labels are named, and that names that are reserved, labels that are not those of the metric, counts
that fall and amounts beyond its range are refused as they are here; and of the pushed one that it
keeps the calls that it is given.
-/

namespace SignatureSearch
namespace Metric

/-- What a metric measures. -/
inductive Kind where
  /-- How often something happened. -/
  | counter
  /-- How much there is of something. -/
  | gauge
  /-- How amounts are distributed. -/
  | histogram
  deriving DecidableEq, Repr

namespace Kind

/-- How a kind is written. -/
def text : Kind → String
  | counter => "counter"
  | gauge => "gauge"
  | histogram => "histogram"

end Kind

/-- How an amount is handed over.  What happens to it is decided by the kind of the metric. -/
inductive Verb where
  /-- Count something. -/
  | inc
  /-- Tell an amount. -/
  | observe
  /-- Tell how much there is. -/
  | set
  deriving DecidableEq, Repr

namespace Verb

/-- How a verb is written. -/
def text : Verb → String
  | inc => "inc"
  | observe => "observe"
  | set => "set"

/-- The amount that is handed over: counting goes up by one unless told otherwise, and there is no
amount where one has to be told. -/
def amount? {α : Type} [Measure α] (verb : Verb) (told : Option α) : Option α :=
  match verb, told with
  | inc, none => some Measure.one
  | _, told => told

end Verb

/-- Labels with their values. -/
abbrev Labels : Type :=
  List (String × String)

/-- Labels with their values, no label twice. -/
abbrev LabelSet : Type :=
  Table String

namespace LabelSet

/-- Whether a label may stand before another. -/
def mayPrecede (label other : String × String) : Bool :=
  label.1 ≤ other.1

/-- The labels in the order of their names. -/
def sorted (labels : LabelSet) : Labels :=
  labels.rows.mergeSort mayPrecede

end LabelSet

/-- An amount that is handed over for some labels, or the lack of one. -/
structure Handover (α : Type) where
  /-- How it is handed over. -/
  verb : Verb
  /-- The labels. -/
  labels : LabelSet
  /-- The amount, if one is told. -/
  told : Option α

/-- The values of labels in the order in which a metric names them. -/
abbrev Key : Type :=
  List String

/-- Why an amount is not recorded. -/
inductive Refusal where
  /-- Labels are given to a metric that has none. -/
  | unlabelled (kind : Kind)
  /-- The labels are not those of the metric. -/
  | wrongLabels
  /-- No labels are given to a metric that has some. -/
  | missingLabels (kind : Kind)
  /-- A counter would shrink. -/
  | negative
  /-- A whole number is beyond the range of a store. -/
  | tooLarge
  /-- No amount is told, and there is none that goes without saying. -/
  | untold (verb : Verb)
  deriving DecidableEq, Repr

namespace Refusal

/-- The refusal in words. -/
def message : Refusal → String
  | unlabelled kind => "No label names were set when constructing " ++ kind.text ++ ":m"
  | wrongLabels => "Incorrect label names"
  | missingLabels kind => kind.text ++ " metric is missing label values"
  | negative => "Counters can only be incremented by non-negative amounts."
  | tooLarge => "int too large to convert to float"
  | untold verb =>
      "_Recorder." ++ verb.text ++ "() missing 1 required positional argument: 'value'"

end Refusal

/-- What is scraped for one set of labels. -/
structure Series (α : Type) where
  /-- The value of a counter or a gauge, the sum of what a histogram observed. -/
  value : α
  /-- How many amounts were recorded. -/
  count : Nat
  deriving DecidableEq, Repr

/-- An amount that is pushed for some labels. -/
structure Call (α : Type) where
  /-- The labels. -/
  labels : LabelSet
  /-- The amount. -/
  amount : α

/-- A metric that is recorded in two stores. -/
structure Bridge (α : Type) where
  /-- What it measures. -/
  kind : Kind
  /-- The names of its labels. -/
  names : List String
  /-- What is scraped. -/
  series : List (Key × Series α) := []
  /-- The value to which a gauge was last set. -/
  remembered : List (Labels × α) := []
  /-- What has been pushed, in order. -/
  calls : List (Call α) := []

/-- A name that no label of a metric may have. -/
structure ReservedLabel where
  /-- The name. -/
  name : String
  deriving DecidableEq, Repr

namespace ReservedLabel

/-- What is wrong with the name, in words. -/
def message (reserved : ReservedLabel) : String :=
  "Reserved label metric name: " ++ reserved.name

end ReservedLabel

/-- Whether a label's name is reserved: those that start with two underscores are, and the name
under which a histogram tells its bounds. -/
def isReserved (kind : Kind) (name : String) : Bool :=
  "__".toList.isPrefixOf name.toList || (kind == .histogram && name == "le")

namespace Bridge

variable {α : Type}

/-- A metric of which nothing is recorded. -/
def blank (kind : Kind) (names : List String) : Bridge α :=
  { kind, names }

/-- A metric of which nothing is recorded, unless one of its labels has a reserved name. -/
def start (kind : Kind) (names : List String) : Except ReservedLabel (Bridge α) :=
  match names.find? (isReserved kind) with
  | some name => .error { name }
  | none => .ok (blank kind names)

/-- The rows of a store with the value under a key replaced or added. -/
def store {κ β : Type} [DecidableEq κ] (key : κ) (value : β) : List (κ × β) → List (κ × β)
  | [] => [(key, value)]
  | row :: rows => if row.1 = key then (key, value) :: rows else row :: store key value rows

/-- The key of labels, when they are those of the metric. -/
def key? (bridge : Bridge α) (labels : LabelSet) : Except Refusal Key :=
  if labels.rows.isEmpty then
    if bridge.names.isEmpty then .ok [] else .error (.missingLabels bridge.kind)
  else if bridge.names.isEmpty then .error (.unlabelled bridge.kind)
  else if labels.keys.Perm bridge.names then
    .ok (bridge.names.map fun name => (labels.get? name).getD "")
  else .error .wrongLabels

/-- What is scraped under a key. -/
def at? (bridge : Bridge α) (key : Key) : Option (Series α) :=
  bridge.series.lookup key

/-- The metric with an amount pushed for some labels. -/
def push (bridge : Bridge α) (labels : LabelSet) (amount : α) : Bridge α :=
  { bridge with calls := bridge.calls ++ [{ labels, amount }] }

/-- The metric with something scraped under a key. -/
def scrape (bridge : Bridge α) (key : Key) (series : Series α) : Bridge α :=
  { bridge with series := store key series bridge.series }

variable [Measure α]

/-- What is scraped where nothing is recorded. -/
def nothing : Series α :=
  { value := Measure.zero, count := 0 }

/-- What is scraped under a key, nothing recorded counting as zero. -/
def scraped (bridge : Bridge α) (key : Key) : Series α :=
  (bridge.at? key).getD nothing

/-- What is scraped for labels; labels that are not those of the metric have nothing recorded. -/
def shown (bridge : Bridge α) (labels : LabelSet) : Series α :=
  match bridge.key? labels with
  | .ok key => bridge.scraped key
  | .error _ => nothing

/-- The value to which a gauge was set before, under labels in the order of their names. -/
def previous (bridge : Bridge α) (labels : Labels) : α :=
  (bridge.remembered.lookup labels).getD Measure.zero

/-- The metric once the series under a key has been asked for: from then on it is scraped. -/
def opened (bridge : Bridge α) (key : Key) : Bridge α :=
  bridge.scrape key (bridge.scraped key)

/-- The metric with a value scraped under a key, one more amount recorded there. -/
def enter (bridge : Bridge α) (key : Key) (value : α) : Bridge α :=
  bridge.scrape key { value, count := (bridge.scraped key).count + 1 }

/-- The metric with an amount added for labels with a key, in both stores; `kept` is the amount as
the scraped one keeps it. -/
def accumulate (bridge : Bridge α) (labels : LabelSet) (key : Key) (kept amount : α) : Bridge α :=
  (bridge.enter key (Measure.add (bridge.scraped key).value kept)).push labels amount

/-- The metric with a gauge set for labels with a key; `kept` is the amount as the scraped store
keeps it. -/
def assign (bridge : Bridge α) (labels : LabelSet) (key : Key) (kept amount : α) : Bridge α :=
  let change := Measure.sub amount (bridge.previous labels.sorted)
  let scraped := bridge.enter key kept
  let remembered :=
    { scraped with remembered := store labels.sorted amount scraped.remembered }
  if Measure.isZero change then remembered else remembered.push labels change

/-- Record an amount for labels: what came of it, and the metric after that. -/
def record (bridge : Bridge α) (labels : LabelSet) (amount : α) : Except Refusal Unit × Bridge α :=
  match bridge.key? labels with
  | .error refusal => (.error refusal, bridge)
  | .ok key =>
      let opened := bridge.opened key
      if opened.kind = .counter ∧ Measure.isNegative amount then (.error .negative, opened)
      else
        match Measure.kept? amount with
        | none => (.error .tooLarge, opened)
        | some kept =>
            if opened.kind = .gauge then (.ok (), opened.assign labels key kept amount)
            else (.ok (), opened.accumulate labels key kept amount)

/-- Take what is handed over: what came of it, and the metric after that. -/
def take (bridge : Bridge α) (handover : Handover α) : Except Refusal Unit × Bridge α :=
  match handover.verb.amount? handover.told with
  | none => (.error (.untold handover.verb), bridge)
  | some amount => bridge.record handover.labels amount

/-- Take one thing after another, also after something has been refused. -/
def takeAll (bridge : Bridge α) (handovers : List (Handover α)) : Bridge α :=
  handovers.foldl (fun bridge handover => (bridge.take handover).2) bridge

end Bridge
end Metric
end SignatureSearch
