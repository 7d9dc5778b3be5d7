import SignatureSearch.Text.Blank
import SignatureSearch.Text.Occurrence

/-!
# Cutting texts that were put together

A separator whose first character does not come again in it cannot begin in one part of a text and
end in the next, so a text put together from parts without the separator splits into those parts.
Blanks are taken off the ends of a text that begins and ends in words no further than the words go.
-/

namespace SignatureSearch
namespace Text

/-! ## First occurrences -/

theorem after?_eq_none_iff {front text : List Char} :
    after? front text = none ↔ ¬ front <+: text := by
  constructor
  · rintro missing ⟨rest, whole⟩
    cases missing.symm.trans (after?_eq_some_iff.mpr whole.symm)
  · intro absent
    refine Option.eq_none_iff_forall_ne_some.mpr fun rest found => absent ⟨rest, ?_⟩
    exact (after?_eq_some_iff.mp found).symm

theorem cut?_eq_none_iff {separator text : List Char} :
    cut? separator text = none ↔ ¬ separator <:+: text := by
  induction text with
  | nil =>
      rw [cut?, Option.map_eq_none_iff, after?_eq_none_iff, List.prefix_nil, List.infix_nil]
  | cons c text ih =>
      rw [cut?, List.infix_cons_iff, not_or, ← after?_eq_none_iff, ← ih]
      cases after? separator (c :: text) <;> simp

/-- The text before the first occurrence of a separator holds none. -/
theorem not_infix_of_cut? {separator text front rest : List Char} (nonempty : separator ≠ [])
    (found : cut? separator text = some (front, rest)) : ¬ separator <:+: front := by
  induction text generalizing front with
  | nil =>
      have empty := cut?_append found
      rw [List.append_assoc] at empty
      rw [(List.append_eq_nil_iff.mp empty.symm).1, List.infix_nil]
      exact nonempty
  | cons c text ih =>
      cases here : after? separator (c :: text) with
      | some tail =>
          simp only [cut?, here, Option.some.injEq, Prod.mk.injEq] at found
          rw [← found.1, List.infix_nil]
          exact nonempty
      | none =>
          simp only [cut?, here, Option.map_eq_some_iff, Prod.mk.injEq] at found
          obtain ⟨⟨front, rest⟩, later, rfl, rfl⟩ := found
          rw [List.infix_cons_iff, not_or]
          refine ⟨fun starts => after?_eq_none_iff.mp here ?_, ih later⟩
          have whole := cut?_append later
          rw [List.append_assoc] at whole
          rw [whole]
          exact starts.trans (List.prefix_append (c :: front) _)

section Separator

variable {first : Char} {others : List Char}

/-- A separator at the front of a text does not reach over a place where another one begins. -/
theorem prefix_of_prefix_append (fresh : first ∉ others) {front back : List Char}
    (nonempty : front ≠ []) (starts : first :: others <+: front ++ first :: back) :
    first :: others <+: front := by
  rcases List.prefix_or_prefix_of_prefix starts (List.prefix_append _ _) with within | reaches
  · exact within
  · obtain ⟨tail, whole⟩ := reaches
    cases tail with
    | nil =>
        rw [List.append_nil] at whole
        exact whole ▸ List.prefix_refl _
    | cons c tail =>
        -- What is left of the separator stands where the next one begins.
        rw [← whole, List.prefix_append_right_inj, List.cons_prefix_cons] at starts
        obtain ⟨rfl, -⟩ := starts
        obtain ⟨d, front, rfl⟩ := List.exists_cons_of_ne_nil nonempty
        rw [List.cons_append, List.cons.injEq] at whole
        exact absurd (whole.2 ▸ List.mem_append_right front List.mem_cons_self) fresh

theorem cut?_eq_some_append (fresh : first ∉ others) {front rest : List Char}
    (absent : ¬ first :: others <:+: front) :
    cut? (first :: others) (front ++ (first :: others ++ rest)) = some (front, rest) := by
  induction front with
  | nil =>
      have here : after? (first :: others) (first :: (others ++ rest)) = some rest :=
        after?_eq_some_iff.mpr rfl
      rw [List.nil_append, List.cons_append, cut?, here]
  | cons c front ih =>
      rw [List.infix_cons_iff, not_or] at absent
      have not_here :
          after? (first :: others) (c :: (front ++ (first :: others ++ rest))) = none :=
        after?_eq_none_iff.mpr fun starts =>
          absent.1 (prefix_of_prefix_append fresh (List.cons_ne_nil c front) starts)
      rw [List.cons_append, cut?, not_here, ih absent.2]
      rfl

/-- The separator begins in no text without its first character. -/
theorem infix_append_of_not_mem {front back : List Char} (absent : first ∉ front) :
    first :: others <:+: front ++ back ↔ first :: others <:+: back := by
  induction front with
  | nil => rfl
  | cons c front ih =>
      rw [List.mem_cons, not_or] at absent
      rw [List.cons_append, List.infix_cons_iff, List.cons_prefix_cons, ih absent.2]
      exact or_iff_right fun starts => absent.1 starts.1

/-- Parts without the separator, put together with it, split into the parts. -/
theorem splitOn_flatMap {separator : List Char} (shape : separator = first :: others)
    (fresh : first ∉ others) (nonempty : separator ≠ []) (front : List Char)
    (parts : List (List Char)) (front_absent : ¬ separator <:+: front)
    (parts_absent : ∀ part ∈ parts, ¬ separator <:+: part) :
    splitOn separator nonempty (front ++ parts.flatMap (separator ++ ·)) = (front, parts) := by
  subst shape
  induction parts generalizing front with
  | nil =>
      rw [splitOn, List.flatMap_nil, List.append_nil]
      split
      · rfl
      · rename_i found
        rw [cut?_eq_none_iff.mpr front_absent] at found
        cases found
  | cons part parts ih =>
      rw [List.forall_mem_cons] at parts_absent
      let rest := part ++ parts.flatMap (first :: others ++ ·)
      have cut : cut? (first :: others) (front ++ (first :: others ++ rest)) = some (front, rest) :=
        cut?_eq_some_append fresh front_absent
      rw [splitOn, List.flatMap_cons, List.append_assoc]
      split
      · rename_i found
        rw [cut] at found
        cases found
      · rename_i found
        rw [cut, Option.some.injEq, Prod.mk.injEq] at found
        obtain ⟨rfl, rfl⟩ := found
        rw [ih part parts_absent.1 parts_absent.2]

end Separator

/-- Splitting loses nothing but the separators and leaves none in a part. -/
theorem splitOn_spec {separator : List Char} (nonempty : separator ≠ []) (text : List Char) :
    text = (splitOn separator nonempty text).1
        ++ (splitOn separator nonempty text).2.flatMap (separator ++ ·) ∧
      ¬ separator <:+: (splitOn separator nonempty text).1 ∧
      ∀ part ∈ (splitOn separator nonempty text).2, ¬ separator <:+: part := by
  fun_induction splitOn separator nonempty text with
  | case1 text missing => exact ⟨by simp, cut?_eq_none_iff.mp missing, by simp⟩
  | case2 text front rest found parts ih =>
      obtain ⟨whole, first, others⟩ := ih
      refine ⟨?_, not_infix_of_cut? nonempty found, List.forall_mem_cons.mpr ⟨first, others⟩⟩
      rw [cut?_append found, List.flatMap_cons, List.append_assoc separator, ← whole,
        List.append_assoc]

/-! ## One character -/

theorem splitAt_append {separator : Char} {front : List Char} (absent : separator ∉ front)
    (back : List Char) :
    splitAt separator (front ++ back) =
      (front ++ (splitAt separator back).1, (splitAt separator back).2) := by
  induction front with
  | nil => rfl
  | cons c front ih =>
      rw [List.mem_cons, not_or] at absent
      rw [List.cons_append, splitAt, ih absent.2, if_neg (Ne.symm absent.1)]
      rfl

@[simp]
theorem splitAt_cons_self (separator : Char) (text : List Char) :
    splitAt separator (separator :: text) =
      ([], (splitAt separator text).1 :: (splitAt separator text).2) := by
  rw [splitAt, if_pos rfl]

/-- The first part goes as far as the text does without the separator. -/
theorem fst_splitAt (separator : Char) (text : List Char) :
    (splitAt separator text).1 = text.takeWhile (· ≠ separator) := by
  induction text with
  | nil => rfl
  | cons c text ih =>
      rw [splitAt, List.takeWhile_cons]
      by_cases same : c = separator
      · simp [same]
      · simp [same, ih]

/-- No part holds the separator. -/
theorem not_mem_splitAt (separator : Char) (text : List Char) :
    ∀ part ∈ (splitAt separator text).1 :: (splitAt separator text).2, separator ∉ part := by
  induction text with
  | nil => simp [splitAt]
  | cons c text ih =>
      rw [splitAt]
      split
      · exact List.forall_mem_cons.mpr ⟨List.not_mem_nil, ih⟩
      · rename_i differs
        obtain ⟨first, others⟩ := List.forall_mem_cons.mp ih
        refine List.forall_mem_cons.mpr ⟨?_, others⟩
        simp [Ne.symm differs, first]

/-- Parts without the separator, joined with it, split into the parts. -/
theorem splitAt_join {separator : Char} {first : List Char} {others : List (List Char)}
    (absent : ∀ part ∈ first :: others, separator ∉ part) :
    splitAt separator (join [separator] (first :: others)) = (first, others) := by
  induction others generalizing first with
  | nil =>
      have alone := splitAt_append (absent first List.mem_cons_self) []
      simpa [join, splitAt] using alone
  | cons next others ih =>
      obtain ⟨here, later⟩ := List.forall_mem_cons.mp absent
      rw [join, List.append_assoc, splitAt_append here, List.singleton_append, splitAt_cons_self,
        ih later, List.append_nil]

theorem join_concat (separator : List Char) (texts : List (List Char)) (last : List Char) :
    join separator (texts ++ [last]) = texts.flatMap (· ++ separator) ++ last := by
  induction texts with
  | nil => rfl
  | cons text texts ih =>
      have split : join separator (text :: (texts ++ [last])) =
          text ++ separator ++ join separator (texts ++ [last]) := by
        cases texts <;> rfl
      rw [List.cons_append, split, ih, List.flatMap_cons, List.append_assoc (text ++ separator)]

/-! ## Blanks at the ends -/

theorem trimLeft_of_head_not_blank {c : Char} {text : List Char} (word : isBlank c = false) :
    trimLeft (c :: text) = c :: text := by
  rw [trimLeft, List.dropWhile_cons_of_neg (by simp [word])]

theorem trimLeft_append_of_isAllBlank {front : List Char} (blank : isAllBlank front = true)
    (back : List Char) : trimLeft (front ++ back) = trimLeft back :=
  List.dropWhile_append_of_pos (List.all_eq_true.mp blank)

/-- A text that begins with no separator, and is blank as far as it goes without one, is blank. -/
theorem isAllBlank_of_takeWhile {separator : Char} (word : isBlank separator = false)
    {text : List Char} (blank : isAllBlank (text.takeWhile (· ≠ separator)) = true)
    (begins : (trimLeft text).head? ≠ some separator) : isAllBlank text = true := by
  induction text with
  | nil => rfl
  | cons c text ih =>
      by_cases same : c = separator
      · subst same
        rw [trimLeft_of_head_not_blank word] at begins
        exact absurd rfl begins
      · rw [List.takeWhile_cons_of_pos (by simpa using same), isAllBlank, List.all_cons,
          Bool.and_eq_true] at blank
        have rest : (trimLeft text).head? ≠ some separator := by
          rwa [trimLeft, List.dropWhile_cons_of_pos blank.1] at begins
        rw [isAllBlank, List.all_cons, blank.1, Bool.true_and]
        exact ih blank.2 rest

theorem not_mem_of_isAllBlank {c : Char} (word : isBlank c = false) {text : List Char}
    (blank : isAllBlank text = true) : c ∉ text := by
  intro held
  rw [List.all_eq_true.mp blank c held] at word
  cases word

theorem trimRight_concat_of_not_blank {text : List Char} {c : Char} (word : isBlank c = false) :
    trimRight (text ++ [c]) = text ++ [c] := by
  rw [trimRight, List.reverse_append, List.reverse_singleton, List.singleton_append,
    List.dropWhile_cons_of_neg (by simp [word]), List.reverse_cons, List.reverse_reverse]

/-- Blanks at the end are taken off no further than to a word. -/
theorem trimRight_append {front : List Char} (kept : trimRight front = front) (back : List Char) :
    trimRight (front ++ back) = front ++ trimRight back := by
  have reversed : front.reverse.dropWhile isBlank = front.reverse := by
    rw [← List.reverse_inj, List.reverse_reverse]
    exact kept
  rw [trimRight, List.reverse_append, List.dropWhile_append, reversed]
  by_cases blank : (back.reverse.dropWhile isBlank).isEmpty = true
  · rw [if_pos blank, trimRight, List.isEmpty_iff.mp blank, List.reverse_reverse,
      List.reverse_nil, List.append_nil]
  · rw [if_neg blank, List.reverse_append, List.reverse_reverse, trimRight]

/-- The text without the blanks at its end is a beginning of it. -/
theorem trimRight_prefix (text : List Char) : trimRight text <+: text := by
  have suffix := List.dropWhile_suffix isBlank (l := text.reverse)
  rwa [← List.reverse_prefix, List.reverse_reverse] at suffix

/-- What is taken off the end of a text is blank. -/
theorem exists_trimRight_append (text : List Char) :
    ∃ gap, text = trimRight text ++ gap ∧ isAllBlank gap = true := by
  refine ⟨(text.reverse.takeWhile isBlank).reverse, ?_, ?_⟩
  · rw [trimRight, ← List.reverse_append, List.takeWhile_append_dropWhile, List.reverse_reverse]
  · rw [isAllBlank, List.all_reverse]
    exact List.all_takeWhile

/-- A word is read up to the blank after it. -/
theorem firstWord_append {word rest : List Char} (unbroken : ∀ c ∈ word, isBlank c = false)
    (ends : ∀ c, rest.head? = some c → isBlank c = true) : firstWord (word ++ rest) = word := by
  have ended : rest.takeWhile (!isBlank ·) = [] := by
    cases rest with
    | nil => rfl
    | cons c rest => exact List.takeWhile_cons_of_neg (by simp [ends c rfl])
  rw [firstWord, List.takeWhile_append_of_pos (by simpa using unbroken), ended, List.append_nil]

end Text
end SignatureSearch
