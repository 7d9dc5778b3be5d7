import SignatureSearch.Log.Level
import SignatureSearch.Log.Nearest
import SignatureSearch.Log.Template
import SignatureSearch.Log.Timestamp
import SignatureSearch.Log.Trouble
import SignatureSearch.Table

/-!
# Log lines

A log record and the JSON object that it is written as.  The message and the texts among the further
fields are clipped, for signatures and documentation can be long.  A further field that has the name
of a field of the line takes its place.
-/

namespace SignatureSearch
namespace Log

/-- A log record. -/
structure Record where
  /-- The name of its level. -/
  level : Value := .text "INFO"
  /-- The dotted name of the part that writes. -/
  logger : Value
  /-- The template of its message. -/
  template : Value
  /-- The arguments of the template. -/
  arguments : Arguments := .absent
  /-- When it was made, in seconds from the beginning of 1970. -/
  created : Value := .int 0
  /-- What went wrong. -/
  trouble : Trouble := .none
  /-- Further fields in order. -/
  extra : Table Value := .empty

/-- What stands for a level on the other side: the name of a number and the number of a name.  What
is neither gets a name that tells so. -/
def levelCounterpart : Value → Value
  | .text name =>
      match levelNames.lookup name with
      | some level => .int level
      | none => .text ("Level " ++ name)
  | level =>
      match levelNames.find? fun row => level.sameNumber (.int row.2) with
      | some row => .text row.1
      | none => .text ("Level " ++ String.ofList level.shown)

/-- Names that belong to every record and are no further fields. -/
def recordNames : List String :=
  ["name", "msg", "args", "levelname", "levelno", "pathname", "filename", "module", "exc_info",
    "exc_text", "stack_info", "lineno", "funcName", "created", "msecs", "relativeCreated", "thread",
    "threadName", "processName", "process", "message", "asctime", "taskName"]

namespace Record

/-- The record with a value under a name; a name that belongs to every record changes that part of
it, and a name that starts with an underscore is kept to itself. -/
def put (record : Record) (name : String) (value : Value) : Record :=
  match name with
  | "name" => { record with logger := value }
  | "levelname" => { record with level := value }
  | "msg" => { record with template := value }
  | "args" => { record with arguments := .ofValue value }
  | "created" => { record with created := value }
  | "exc_info" => { record with trouble := .value value }
  | name =>
      if name ∈ recordNames ∨ name.toList.head? = some '_' then record
      else { record with extra := record.extra.put name value }

/-- The record with values put under names in order. -/
def putAll (record : Record) (rows : List (String × Value)) : Record :=
  rows.foldl (fun record row => record.put row.1 row.2) record

end Record

/-- A text no longer than a limit, with three points where it is cut. -/
def clip {α : Type} (point : α) (limit : Nat) (text : List α) : List α :=
  if text.length ≤ limit then text else text.take limit ++ List.replicate 3 point

/-- The most characters of a message. -/
def messageLimit : Nat := 2000

/-- The most characters of a text among the further fields. -/
def fieldLimit : Nat := 500

/-- A further field with its text clipped. -/
def clipField : Value → Value
  | .text value => .text (String.ofList (clip '.' fieldLimit value.toList))
  | value => value

/-- What correlates a line with others. -/
structure Correlation where
  /-- The id of the trace. -/
  trace : String
  /-- The id of the span. -/
  span : String
  /-- The package that is being indexed. -/
  package : Option Value := none

/-- Why a record cannot be written. -/
inductive LineError where
  /-- It has no moment that can be written. -/
  | moment (error : MomentError)
  /-- A field has taken the place of what makes the message. -/
  | noMessage (found : String)
  /-- It has no message. -/
  | message (error : TemplateError)
  /-- It does not tell what went wrong. -/
  | trouble (error : TroubleError)
  /-- A whole number in it does not fit into 64 bits. -/
  | wideInteger
  /-- A text in it has half of a character. -/
  | halfCharacter
  deriving Repr

namespace LineError

/-- The error in words. -/
def text : LineError → String
  | moment error => error.message
  | noMessage found => "'" ++ found ++ "' object is not callable"
  | message error => error.message
  | trouble error => error.message
  | wideInteger => "Integer exceeds 64-bit range"
  | halfCharacter => "str is not valid UTF-8: surrogates not allowed"

end LineError

/-- What a line has under a name. -/
inductive Field where
  /-- A value. -/
  | value (value : Value)
  /-- A message. -/
  | message (message : Message)

namespace Field

/-- The field as JSON. -/
def json : Field → Except LineError Json
  | .value content => if content.fits then .ok content.json else .error .wideInteger
  | .message text =>
      if text.contains none then .error .halfCharacter
      else .ok (.string (String.ofList (text.filterMap id)))

end Field

namespace Record

/-- The message of a record. -/
def message (record : Record) : Except LineError Message :=
  match record.extra.get? "getMessage" with
  | some value => .error (.noMessage value.typeName)
  | none =>
      match fillTemplate record.template.shown record.arguments with
      | .error error => .error (.message error)
      | .ok message => .ok message

/-- The fields of the line of a record, in order. -/
def fields (record : Record) (correlation : Correlation) : Except LineError (Table Field) := do
  let moment ← (timestamp record.created).mapError LineError.moment
  let message ← record.message
  let failure ← record.trouble.failure?.mapError LineError.trouble
  let standard : List (String × Field) :=
    [("timestamp", .value (.text moment)), ("level", .value record.level),
      ("logger", .value record.logger),
      ("message", .message (clip (some '.') messageLimit message)),
      ("trace_id", .value (.text correlation.trace)), ("span_id", .value (.text correlation.span))]
  let package := (correlation.package.map fun value => ("package", Field.value value)).toList
  let exception := failure.toList.map fun failure =>
    ("exception", Field.value (.text (String.ofList failure.text)))
  let further := record.extra.rows.map fun row => (row.1, Field.value (clipField row.2))
  return Table.ofRows (standard ++ package ++ exception ++ further)

/-- The line of a record as the members of a JSON object. -/
def line (record : Record) (correlation : Correlation) :
    Except LineError (List (String × Json)) := do
  let fields ← record.fields correlation
  fields.rows.mapM fun row => return (row.1, ← row.2.json)

end Record
end Log
end SignatureSearch
