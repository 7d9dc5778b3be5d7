import SignatureSearch.Catalog.Slot
import SignatureSearch.Search.Ranking

/-!
# Searching slots

The same searches in the slots of a catalogue.  Each slot is looked at as far as the search needs
it, and keeps what that took: a search for a text looks at the type of an entry only when the name
does not answer, and a search for a type works out the canonical form of every entry.
-/

namespace SignatureSearch
namespace Search

open Catalog (Slot)
open Signature (TypeExpr)

/-- What looking at a slot tells: the score of the match, if it is a match, and the slot that keeps
what it took. -/
abbrev Look : Type :=
  Slot → Option (Option Nat) × Slot

/-- Look in a slot for a folded text. -/
def lookForText (includeTypes : Bool) (needle : List Char) : Look := fun slot =>
  if nameHas needle slot.entry then (some none, slot)
  else if includeTypes then
    match slot.readTypeText with
    | (text, slot) =>
        (if Text.occurs needle (Text.foldCase text.toList) then some none else none, slot)
  else (none, slot)

/-- Compare the type of a slot with a canonical query. -/
def lookForType (query : TypeExpr) : Look := fun slot =>
  match slot.readNormalized with
  | (type, slot) =>
      let score := query.similarity type
      (if 0 < score then some (some score) else none, slot)

/-- The matches among slots in order, and the slots that keep what it took to tell. -/
def lookThrough (look : Look) (slots : List Slot) : List Match × List Slot :=
  let looked := slots.map look
  (looked.zipIdx.filterMap fun ((told, slot), position) =>
      told.map fun score => { position, entry := slot.entry, score },
    looked.map Prod.snd)

/-- Search slots for a text; a blank text has no answers. -/
def lookupText (includeTypes : Bool) (needle : String) (slots : List Slot) :
    List Match × List Slot :=
  let folded := needleOf needle
  if folded.isEmpty then ([], slots) else lookThrough (lookForText includeTypes folded) slots

/-- Search slots for a canonical type, the best matches first. -/
def lookupType (query : TypeExpr) (slots : List Slot) : List Match × List Slot :=
  match lookThrough (lookForType query) slots with
  | (found, slots) => (found.mergeSort notWorse, slots)

/-- Search slots for a type. -/
def lookupQuery (query : TypeExpr) (slots : List Slot) :
    Except TypeExpr.NotAType (List Match × List Slot) :=
  query.normalize.map fun canonical => lookupType canonical slots

/-- Search slots for what a parsed query asks. -/
def lookup (includeTypes : Bool) (query : TypeExpr) (slots : List Slot) :
    Except TypeExpr.NotAType (List Match × List Slot) :=
  match query with
  | .var name => .ok (lookupText includeTypes name slots)
  | query => lookupQuery query slots

end Search
end SignatureSearch
