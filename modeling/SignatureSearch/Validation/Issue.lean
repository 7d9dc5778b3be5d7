/-!
# Validation issues

What can be wrong with a value that comes from outside, and where in the value.  Checking a value
of several parts reports the issues of all of them, in order.

The program leaves these checks to a library.  It is assumed of that library that it finds the same
issues, in the same order, and reports them under the same codes.
-/

namespace SignatureSearch

/-- What is wrong with a value. -/
inductive IssueKind where
  /-- A part that has to be there is not. -/
  | missing
  /-- A text is called for. -/
  | notText
  /-- A text is shorter than allowed. -/
  | textTooShort
  /-- A whole number is called for. -/
  | notInteger
  /-- A text writes no whole number. -/
  | unreadableInteger
  /-- A text writes a whole number of too many digits. -/
  | oversizedInteger
  /-- A number with a fraction stands where a whole one is called for. -/
  | fractionalInteger
  /-- A whole number is below its least value. -/
  | tooSmall
  /-- A truth value is called for. -/
  | notBoolean
  /-- A text or number means no truth value. -/
  | unreadableBoolean
  /-- A number is called for. -/
  | notNumber
  /-- A text writes no number. -/
  | unreadableNumber
  /-- None of the values allowed. -/
  | notListed
  /-- A list is called for. -/
  | notList
  /-- A list of fixed length is called for. -/
  | notTuple
  /-- A list is longer than allowed. -/
  | tooLong
  /-- Named parts are called for. -/
  | notRecord
  deriving DecidableEq, Repr

namespace IssueKind

/-- The code under which an issue is reported. -/
def code : IssueKind → String
  | missing => "missing"
  | notText => "string_type"
  | textTooShort => "string_too_short"
  | notInteger => "int_type"
  | unreadableInteger => "int_parsing"
  | oversizedInteger => "int_parsing_size"
  | fractionalInteger => "int_from_float"
  | tooSmall => "greater_than_equal"
  | notBoolean => "bool_type"
  | unreadableBoolean => "bool_parsing"
  | notNumber => "float_type"
  | unreadableNumber => "float_parsing"
  | notListed => "literal_error"
  | notList => "list_type"
  | notTuple => "tuple_type"
  | tooLong => "too_long"
  | notRecord => "model_type"

end IssueKind

/-- Something wrong at a place of a value. -/
structure Issue where
  /-- The names and positions that lead to the place. -/
  location : List String
  /-- What is wrong there. -/
  kind : IssueKind
  deriving DecidableEq, Repr

/-- A value that has been checked, or all that is wrong with it. -/
abbrev Validated (α : Type) : Type :=
  Except (List Issue) α

namespace Validated

variable {α β : Type}

/-- A single issue at the place that is being checked. -/
def fail (kind : IssueKind) : Validated α :=
  .error [{ location := [], kind }]

/-- A check made at a named place. -/
def under (step : String) : Validated α → Validated α
  | .ok value => .ok value
  | .error issues =>
      .error (issues.map fun issue => { issue with location := step :: issue.location })

/-- Two checks, the issues of both reported. -/
def both : Validated α → Validated β → Validated (α × β)
  | .ok first, .ok second => .ok (first, second)
  | .ok _, .error issues => .error issues
  | .error issues, .ok _ => .error issues
  | .error first, .error second => .error (first ++ second)

/-- Checks of items in order, the issues of all reported at the positions of the items. -/
def allFrom (position : Nat) : List (Validated α) → Validated (List α)
  | [] => .ok []
  | check :: checks =>
      match both (under (toString position) check) (allFrom (position + 1) checks) with
      | .ok (value, values) => .ok (value :: values)
      | .error issues => .error issues

/-- Checks of items in order, the issues of all reported at the positions of the items. -/
def all (checks : List (Validated α)) : Validated (List α) :=
  allFrom 0 checks

/-- A check of a named part that may be left out when there is a value for that case. -/
def part (name : String) (absent : Option α) (check : β → Validated α) :
    Option β → Validated α
  | some given => under name (check given)
  | none =>
      match absent with
      | some value => .ok value
      | none => under name (fail .missing)

end Validated
end SignatureSearch
