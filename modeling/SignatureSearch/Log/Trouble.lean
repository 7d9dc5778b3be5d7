import SignatureSearch.Log.Display

/-!
# What went wrong

A record may carry a failure, of which its line tells the kind and the text.  Where some other value
has taken its place, the failure is looked for in the second of its parts; the third says where it
happened and must be nothing.
-/

namespace SignatureSearch
namespace Log

/-- What went wrong when a record was made. -/
inductive Failure where
  /-- A key was missing. -/
  | missingKey (key : Value)
  /-- A value was refused. -/
  | badValue (subject : Value)
  /-- Nothing that is told. -/
  | untold
  deriving Repr

namespace Failure

/-- The failure as a line writes it. -/
def text : Failure → List Char
  | missingKey key => "KeyError: ".toList ++ key.cited
  | badValue subject =>
      match subject.shown with
      | [] => "ValueError".toList
      | text => "ValueError: ".toList ++ text
  | untold => "NoneType: None".toList

end Failure

/-- What a record carries of a failure. -/
inductive Trouble where
  /-- No failure. -/
  | none
  /-- A failure. -/
  | failure (failure : Failure)
  /-- A value that should hold a failure and where it happened. -/
  | value (value : Value)
  deriving Repr

/-- Why what a record carries of a failure cannot be written. -/
inductive TroubleError where
  /-- It has no parts. -/
  | noParts (found : String)
  /-- It has too few parts. -/
  | tooFewParts (found : Value)
  /-- Its parts have names. -/
  | namedParts
  /-- Its third part is no place where something happened. -/
  | noPlace (found : String)
  /-- Its second part is no failure. -/
  | noFailure (found : String)
  deriving Repr

namespace TroubleError

/-- How a value names itself when a part of it is missing. -/
def partsName : Value → String
  | .text _ => "string "
  | .octets false _ => ""
  | .range _ _ => "range object "
  | value => value.typeName ++ " "

/-- The error in words. -/
def message : TroubleError → String
  | noParts found => "'" ++ found ++ "' object is not subscriptable"
  | tooFewParts found => partsName found ++ "index out of range"
  | namedParts => "2"
  | noPlace found => "'" ++ found ++ "' object has no attribute 'tb_frame'"
  | noFailure found => "'" ++ found ++ "' object has no attribute '__suppress_context__'"

end TroubleError

namespace Trouble

/-- The name of the type of the third part of a value that has places. -/
def thirdPart (value : Value) : Except TroubleError Value :=
  let part := fun (found : Option Value) =>
    match found with
    | some part => .ok part
    | .none => .error (.tooFewParts value)
  match value with
  | .list items => part items[2]?
  | .text text => part (text.toList[2]?.map fun c => .text (String.singleton c))
  | .octets _ octets => part (octets[2]?.map fun octet => .int octet.toNat)
  | .range start stop => part (if start + 2 < stop then some (.int (start + 2)) else Option.none)
  | .table _ => .error .namedParts
  | value => .error (.noParts value.typeName)

/-- The failure that a value holds in its second part, if its third part is nothing. -/
def failureIn (value : Value) : Except TroubleError Failure :=
  match thirdPart value with
  | .error error => .error error
  | .ok .null =>
      match value with
      | .list (_ :: .failure subject :: _) => .ok (.badValue subject)
      | .list (_ :: .null :: _) => .ok .untold
      | .list (_ :: other :: _) => .error (.noFailure other.typeName)
      | other => .error (.tooFewParts other)
  | .ok place => .error (.noPlace place.typeName)

/-- The failure that a record tells. -/
def failure? : Trouble → Except TroubleError (Option Failure)
  | .none => .ok Option.none
  | .failure found => .ok (some found)
  | .value found => if found.isPresent then (failureIn found).map some else .ok Option.none

end Trouble

end Log
end SignatureSearch
