import SignatureSearch.Proofs.Text.Splitting

/-!
# Visible characters

What is left of a text when all of its blanks are left out.  Trimming and joining with blanks change
nothing of it, so two texts with the same visible characters hold the same words as far as breaks
between words do not count.
-/

namespace SignatureSearch
namespace Text

/-- The characters of a text that are not blank, in order. -/
def visible (text : List Char) : List Char :=
  text.filter (!isBlank ·)

@[simp]
theorem visible_append (front back : List Char) :
    visible (front ++ back) = visible front ++ visible back :=
  List.filter_append front back

theorem visible_eq_nil_iff {text : List Char} : visible text = [] ↔ isAllBlank text = true := by
  simp [visible, isAllBlank]

theorem visible_cons_of_blank {c : Char} (blank : isBlank c = true) (text : List Char) :
    visible (c :: text) = visible text :=
  List.filter_cons_of_neg (by simp [blank])

theorem visible_cons_of_not_blank {c : Char} (word : isBlank c = false) (text : List Char) :
    visible (c :: text) = c :: visible text :=
  List.filter_cons_of_pos (by simp [word])

@[simp]
theorem visible_trimLeft (text : List Char) : visible (trimLeft text) = visible text := by
  induction text with
  | nil => rfl
  | cons c text ih =>
      cases blank : isBlank c with
      | true => rw [visible_cons_of_blank blank, ← ih, trimLeft, List.dropWhile_cons_of_pos blank,
          trimLeft]
      | false => rw [trimLeft_of_head_not_blank blank]

theorem visible_reverse (text : List Char) : visible text.reverse = (visible text).reverse :=
  List.filter_reverse

@[simp]
theorem visible_trimRight (text : List Char) : visible (trimRight text) = visible text := by
  have reversed := visible_trimLeft text.reverse
  rw [visible_reverse] at reversed
  rw [trimRight, visible_reverse]
  exact List.reverse_eq_iff.mpr reversed

@[simp]
theorem visible_trim (text : List Char) : visible (trim text) = visible text := by
  rw [trim, visible_trimRight, visible_trimLeft]

theorem visible_join (separator : List Char) (texts : List (List Char)) :
    visible (join separator texts) = join (visible separator) (texts.map visible) := by
  induction texts with
  | nil => rfl
  | cons text texts ih =>
      cases texts with
      | nil => rfl
      | cons next texts =>
          rw [join, visible_append, visible_append, ih]
          rfl

theorem join_nil_eq_flatten (texts : List (List Char)) : join [] texts = texts.flatten := by
  induction texts with
  | nil => rfl
  | cons text texts ih =>
      cases texts with
      | nil => simp [join]
      | cons next texts => rw [join, ih, List.append_nil, ← List.flatten_cons]

/-- Texts joined with blanks show what they show one by one. -/
theorem visible_join_of_blank {separator : List Char} (blank : isAllBlank separator = true)
    (texts : List (List Char)) : visible (join separator texts) = texts.flatMap visible := by
  rw [visible_join, visible_eq_nil_iff.mpr blank, join_nil_eq_flatten, List.flatMap_def]

end Text
end SignatureSearch
