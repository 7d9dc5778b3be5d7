import Mathlib.Data.List.Basic
import SignatureSearch.Proofs.Search.Answers
import SignatureSearch.Proofs.Signature.WellFormed
import SignatureSearch.Signature.Printer

/-!
# Searches for longer texts

A search for a text keeps the entries that hold it, in their order, so a search for a longer text
finds no more.  Blanks are taken off the text before case is folded, and case is folded character by
character, which is why an entry that holds the trimmed text as it stands is always found.
-/

namespace SignatureSearch

namespace Catalog
namespace Entry

/-- The type of an entry can always be written, and that is how it is shown. -/
theorem render_parsed (entry : Entry) : entry.parsed.render .bare = .ok entry.typeText := by
  have typed : entry.parsed.firstForeign? = none := Signature.firstForeign?_parse entry.signature
  rw [Signature.TypeExpr.render, Signature.TypeExpr.checked, typed]
  rfl

end Entry
end Catalog

namespace Search

open Catalog (Entry)

variable {includeTypes : Bool} {entry : Entry} {part text : List Char}

/-! ## One entry -/

theorem nameMatches_iff :
    nameMatches includeTypes text entry = true ↔
      text <:+: Text.foldCase entry.name.toList ∨
        includeTypes = true ∧ text <:+: Text.foldCase entry.typeText.toList := by
  rw [nameMatches, nameHas, typeHas, Bool.or_eq_true, Bool.and_eq_true, Text.occurs_iff,
    Text.occurs_iff]

/-- An entry that answers the search for a text answers the search for every part of it. -/
theorem nameMatches_of_part (inside : part <:+: text)
    (answers : nameMatches includeTypes text entry = true) :
    nameMatches includeTypes part entry = true := by
  rw [nameMatches_iff] at answers ⊢
  rcases answers with named | ⟨included, shown⟩
  · exact .inl (inside.trans named)
  · exact .inr ⟨included, inside.trans shown⟩

theorem nameMatches_with_types (answers : nameMatches false text entry = true) :
    nameMatches true text entry = true := by
  rw [nameMatches_iff] at answers ⊢
  rcases answers with named | ⟨included, -⟩
  · exact .inl named
  · cases included

/-- An entry that holds the trimmed text as it stands answers the search for it. -/
theorem nameMatches_of_verbatim {needle : String}
    (holds : Text.trim needle.toList <:+: entry.name.toList ∨
      includeTypes = true ∧ Text.trim needle.toList <:+: entry.typeText.toList) :
    nameMatches includeTypes (needleOf needle) entry = true := by
  rw [nameMatches_iff, needleOf]
  rcases holds with named | ⟨included, shown⟩
  · exact .inl (Text.foldCase_part named)
  · exact .inr ⟨included, Text.foldCase_part shown⟩

/-! ## All entries -/

variable {needle longer : String} {entries : List Entry}

/-- The match of an entry at a position. -/
def listed (row : Entry × Nat) : Match :=
  { position := row.2, entry := row.1, score := none }

/-- A search keeps the entries that answer it, in their order. -/
theorem nameSearch_eq (worded : needleOf needle ≠ []) :
    nameSearch includeTypes needle entries =
      (entries.zipIdx.filter fun row => nameMatches includeTypes (needleOf needle) row.1).map
        listed := by
  rw [nameSearch, if_neg (by simpa using worded), ← List.filterMap_eq_map, List.filterMap_filter]
  rfl

/-- A search that every answer of another search answers too finds no less, in the same order. -/
theorem nameSearch_sublist {otherTypes : Bool} (worded : needleOf needle ≠ [])
    (wordedToo : needleOf longer ≠ [])
    (implied : ∀ entry, nameMatches otherTypes (needleOf longer) entry = true →
      nameMatches includeTypes (needleOf needle) entry = true) :
    (nameSearch otherTypes longer entries).Sublist (nameSearch includeTypes needle entries) := by
  rw [nameSearch_eq worded, nameSearch_eq wordedToo]
  refine List.Sublist.map listed (List.monotone_filter_right entries.zipIdx ?_)
  intro row answers
  exact implied row.1 answers

/-- **Typing more finds no more.**  When a text that is not blank occurs in another one, up to case
and the blanks around them, a search for the other finds some of what a search for it finds, in the
same order.  Leaving types out finds no more either, and an entry whose name or shown type holds the
trimmed text as it stands is found. -/
theorem nameSearch_refined (worded : needleOf needle ≠ [])
    (occurs : needleOf needle <:+: needleOf longer) (includeTypes : Bool) (entries : List Entry) :
    (nameSearch includeTypes longer entries).Sublist (nameSearch includeTypes needle entries) ∧
    (∀ text, (nameSearch false text entries).Sublist (nameSearch true text entries)) ∧
    ∀ position entry, entries[position]? = some entry →
      ∃ typeText, entry.parsed.render .bare = .ok typeText ∧
        (Text.trim needle.toList <:+: entry.name.toList ∨
            includeTypes = true ∧ Text.trim needle.toList <:+: typeText.toList →
          { position, entry, score := none } ∈ nameSearch includeTypes needle entries) := by
  refine ⟨?_, ?_, ?_⟩
  · have wordedToo : needleOf longer ≠ [] := by
      intro empty
      rw [empty] at occurs
      exact worded (List.infix_nil.mp occurs)
    exact nameSearch_sublist worded wordedToo fun entry => nameMatches_of_part occurs
  · intro text
    by_cases empty : needleOf text = []
    · simp [nameSearch, empty]
    · exact nameSearch_sublist empty empty fun entry => nameMatches_with_types
  · intro position entry here
    refine ⟨entry.typeText, entry.render_parsed, fun holds => ?_⟩
    exact mem_nameSearch_iff.mpr ⟨worded, here, nameMatches_of_verbatim holds, rfl⟩

/-- A sharp s is a double s in any case, so what is found for a word with it is found for them. -/
theorem nameSearch_refined_sharp :
    let entries : List Entry := [⟨"core", "Basics", "pass", "a -> ()", ""⟩,
      ⟨"maps", "Road", "straße", "Road -> String", ""⟩]
    needleOf " SS " ≠ [] ∧ needleOf " SS " <:+: needleOf "Straße" ∧
      (nameSearch true "Straße" entries).Sublist (nameSearch true " SS " entries) := by
  intro entries
  have worded : needleOf " SS " ≠ [] := by decide +kernel
  have occurs : needleOf " SS " <:+: needleOf "Straße" :=
    Text.occurs_iff.mp (by decide +kernel)
  exact ⟨worded, occurs, (nameSearch_refined worded occurs true entries).1⟩

end Search
end SignatureSearch
