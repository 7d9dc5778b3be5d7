import Mathlib.Data.List.DropRight
import SignatureSearch.Text.Blank
import SignatureSearch.Text.CaseFold

/-!
# Trimmed and folded texts

Taking blanks off the ends of a text leaves a part of it, and leaves nothing only of a text without
words.  Folding case leaves something of every character.
-/

namespace SignatureSearch
namespace Text

theorem trimRight_part (text : List Char) : trimRight text <:+: text := by
  have whole : text.reverse.reverse = text := List.reverse_reverse text
  rw [trimRight]
  conv => rhs; rw [← whole]
  exact (List.reverse_prefix.mpr (List.dropWhile_suffix _)).isInfix

/-- What is left of a text is a part of it. -/
theorem trim_part (text : List Char) : trim text <:+: text :=
  (trimRight_part (trimLeft text)).trans (List.dropWhile_suffix _).isInfix

/-- Nothing is left of a text exactly when it has no word. -/
theorem trim_eq_nil_iff {text : List Char} : trim text = [] ↔ isAllBlank text = true := by
  have twice : trimLeft (trimLeft text) = trimLeft text := List.dropWhile_idempotent _ _
  rw [trim, trimRight_eq_nil_iff, ← trimLeft_eq_nil_iff, twice, trimLeft_eq_nil_iff]

theorem foldExpansions_ne_nil : ∀ expansion ∈ foldExpansions, expansion.2 ≠ [] := by
  decide +kernel

theorem foldWide_ne_nil (c : Char) : foldWide c ≠ [] := by
  unfold foldWide
  split
  · rename_i expansion found
    obtain ⟨front, back, shape, -⟩ := List.lookup_eq_some_iff.mp found
    have member : (c.toNat, expansion) ∈ foldExpansions := by
      rw [shape]
      simp
    simpa using foldExpansions_ne_nil _ member
  · split
    · exact List.cons_ne_nil _ _
    · exact List.cons_ne_nil _ _

theorem foldChar_ne_nil (c : Char) : foldChar c ≠ [] := by
  unfold foldChar
  split
  · exact List.cons_ne_nil _ _
  · exact foldWide_ne_nil c

/-- Only the empty text folds to nothing. -/
theorem foldCase_eq_nil_iff {text : List Char} : foldCase text = [] ↔ text = [] := by
  constructor
  · intro empty
    cases text with
    | nil => rfl
    | cons c text => exact absurd (List.append_eq_nil_iff.mp empty).1 (foldChar_ne_nil c)
  · rintro rfl
    rfl

end Text
end SignatureSearch
