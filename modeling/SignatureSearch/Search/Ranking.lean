import SignatureSearch.Catalog.Entry
import SignatureSearch.Signature.Scoring
import SignatureSearch.Text.Blank
import SignatureSearch.Text.CaseFold

/-!
# Ranking

How entries answer a query.  A query that is a bare variable searches names, and types as they are
shown, for that text in any case; every other query is compared with the type of each entry.  Name
matches keep the order of the entries; type matches are ordered by similarity, the best first, and
keep the order of the entries among equals.
-/

namespace SignatureSearch
namespace Search

open Catalog (Entry)
open Signature (TypeExpr)

/-- What a query searches. -/
inductive Mode where
  /-- Names. -/
  | name
  /-- Types. -/
  | type
  deriving DecidableEq, Repr

namespace Mode

/-- How a mode is written. -/
def text : Mode → String
  | name => "name"
  | type => "type"

end Mode

/-- What a parsed query searches. -/
def classify : TypeExpr → Mode
  | .var _ => .name
  | _ => .type

/-- An entry that answers a query. -/
structure Match where
  /-- How many entries come before it. -/
  position : Nat
  /-- The entry. -/
  entry : Entry
  /-- How similar its type is to the query, when types are searched. -/
  score : Option Nat
  deriving DecidableEq, Repr

/-- The text that a name search looks for. -/
def needleOf (needle : String) : List Char :=
  Text.foldCase (Text.trim needle.toList)

/-- Whether the name of an entry has a folded text in it. -/
def nameHas (needle : List Char) (entry : Entry) : Bool :=
  Text.occurs needle (Text.foldCase entry.name.toList)

/-- Whether the type of an entry as it is shown has a folded text in it. -/
def typeHas (needle : List Char) (entry : Entry) : Bool :=
  Text.occurs needle (Text.foldCase entry.typeText.toList)

/-- Whether an entry answers the search for a folded text. -/
def nameMatches (includeTypes : Bool) (needle : List Char) (entry : Entry) : Bool :=
  nameHas needle entry || (includeTypes && typeHas needle entry)

/-- The entries that answer the search for a text; a blank text has no answers. -/
def nameSearch (includeTypes : Bool) (needle : String) (entries : List Entry) : List Match :=
  let folded := needleOf needle
  if folded.isEmpty then []
  else
    entries.zipIdx.filterMap fun (entry, position) =>
      if nameMatches includeTypes folded entry then some { position, entry, score := none }
      else none

/-- Whether a match may stand before another. -/
def notWorse (a b : Match) : Bool :=
  b.score.getD 0 ≤ a.score.getD 0

/-- The entries whose type has a positive similarity to a canonical query, the best first. -/
def scored (query : TypeExpr) (entries : List Entry) : List Match :=
  let matched := entries.zipIdx.filterMap fun (entry, position) =>
    let score := query.similarity entry.normalized
    if 0 < score then some { position, entry, score := some score } else none
  matched.mergeSort notWorse

/-- The entries that answer a query for a type. -/
def typeSearch (query : TypeExpr) (entries : List Entry) :
    Except TypeExpr.NotAType (List Match) :=
  query.normalize.map fun canonical => scored canonical entries

/-- The entries that answer a parsed query. -/
def answers (includeTypes : Bool) (query : TypeExpr) (entries : List Entry) :
    Except TypeExpr.NotAType (List Match) :=
  match query with
  | .var name => .ok (nameSearch includeTypes name entries)
  | query => typeSearch query entries

/-- The entries that answer a query, all of them. -/
def rank (query : String) (entries : List Entry) : Except TypeExpr.NotAType (List Match) :=
  answers true (Signature.parse query) entries

/-- The first so many items, or all but the last so many for a negative limit. -/
def cut {α : Type} (limit : Option Int) (items : List α) : List α :=
  match limit with
  | none => items
  | some (.ofNat count) => items.take count
  | some (.negSucc dropped) => items.take (items.length - (dropped + 1))

section Cut

variable {α : Type} (items : List α)

@[simp]
theorem cut_none : cut none items = items := rfl

@[simp]
theorem cut_natCast (count : Nat) : cut (some count) items = items.take count := rfl

theorem cut_neg {dropped : Nat} (positive : 0 < dropped) :
    cut (some (-dropped)) items = items.take (items.length - dropped) := by
  obtain ⟨less, rfl⟩ := Nat.exists_eq_succ_of_ne_zero (Nat.ne_of_gt positive)
  rfl

end Cut

end Search
end SignatureSearch
