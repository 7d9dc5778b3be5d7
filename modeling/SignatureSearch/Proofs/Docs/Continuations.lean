import SignatureSearch.Proofs.Docs.Accounts

/-!
# Lines that go on

The first line of a directive goes on in the next line as long as it ends in a comma.  Joining takes
lines from the front, as many as are needed for the first line to end in no comma, and leaves the
others as they are.  So nothing but blanks is changed, and what has been joined is not joined again.
-/

namespace SignatureSearch
namespace Docs

/-- The last character of a line, apart from blanks after it, is a comma. -/
def EndsInComma (line : List Char) : Prop :=
  ∃ front gap, line = front ++ ',' :: gap ∧ Text.isAllBlank gap = true

/-- A text has a first line and further lines: a line end stands before each of these and none in a
line. -/
structure HasLines (text first : List Char) (others : List (List Char)) : Prop where
  /-- The lines with the line ends between them are the whole text. -/
  whole : text = Text.join ['\n'] (first :: others)
  /-- No line end stands in a line. -/
  unbroken : ∀ line ∈ first :: others, '\n' ∉ line

/-! ## Lines -/

theorem hasLines_splitAt (text : List Char) :
    HasLines text (Text.splitAt '\n' text).1 (Text.splitAt '\n' text).2 where
  whole := (Text.join_splitAt '\n' text).symm
  unbroken := Text.not_mem_splitAt '\n' text

namespace HasLines

variable {text first : List Char} {others : List (List Char)} (lines : HasLines text first others)

include lines

theorem splitAt_eq : Text.splitAt '\n' text = (first, others) := by
  rw [lines.whole, Text.splitAt_join lines.unbroken]

/-- A text has its lines in one way only. -/
theorem unique {other : List Char} {more : List (List Char)} (lines' : HasLines text other more) :
    other = first ∧ more = others := by
  rw [← Prod.mk.injEq, ← lines.splitAt_eq, ← lines'.splitAt_eq]

end HasLines

theorem continues_iff {line : List Char} : continues line = true ↔ EndsInComma line := by
  rw [continues, beq_iff_eq]
  constructor
  · intro last
    obtain ⟨gap, split, blank⟩ := Text.exists_trimRight_append line
    obtain ⟨front, shape⟩ := List.getLast?_eq_some_iff.mp last
    rw [shape, List.append_assoc, List.singleton_append] at split
    exact ⟨front, gap, split, blank⟩
  · rintro ⟨front, gap, rfl, blank⟩
    have kept : Text.trimRight (front ++ [',']) = front ++ [','] :=
      Text.trimRight_concat_of_not_blank (by decide)
    rw [← List.singleton_append, ← List.append_assoc, Text.trimRight_append kept,
      Text.trimRight_eq_nil_iff.mpr blank, List.append_nil, List.getLast?_concat]

/-! ## Joining lines -/

/-- Lines are taken from the front. -/
theorem absorb_suffix (line : List Char) (lines : List (List Char)) :
    (absorb line lines).2 <:+ lines := by
  induction lines generalizing line with
  | nil => exact List.suffix_refl []
  | cons next lines ih =>
      rw [absorb]
      split
      · exact (ih _).trans (List.suffix_cons next lines)
      · exact List.suffix_refl _

/-- Joining stops at a line that does not go on, or after the last line. -/
theorem absorb_stops {line : List Char} {lines : List (List Char)}
    (goes : continues (absorb line lines).1 = true) : (absorb line lines).2 = [] := by
  induction lines generalizing line with
  | nil => rfl
  | cons next lines ih =>
      rw [absorb] at goes ⊢
      split at goes
      · rename_i here
        rw [if_pos here]
        exact ih goes
      · rename_i stops
        exact absurd goes stops

/-- Where a line goes on only if it is the last one, there is nothing to join. -/
theorem absorb_eq_self {line : List Char} {lines : List (List Char)}
    (stops : continues line = true → lines = []) : absorb line lines = (line, lines) := by
  cases lines with
  | nil => rfl
  | cons next lines =>
      rw [absorb, if_neg fun goes => ?_]
      cases stops goes

theorem newline_not_mem_absorb {line : List Char} {lines : List (List Char)}
    (unbroken : ∀ part ∈ line :: lines, '\n' ∉ part) : '\n' ∉ (absorb line lines).1 := by
  induction lines generalizing line with
  | nil => exact unbroken line List.mem_cons_self
  | cons next lines ih =>
      obtain ⟨here, later⟩ := List.forall_mem_cons.mp unbroken
      obtain ⟨below, others⟩ := List.forall_mem_cons.mp later
      rw [absorb]
      split
      · refine ih (List.forall_mem_cons.mpr ⟨?_, others⟩)
        have front : '\n' ∉ Text.trimRight line := fun held =>
          here ((Text.trimRight_prefix line).subset held)
        have back : '\n' ∉ Text.trim next := fun held =>
          below ((List.dropWhile_suffix _).subset ((Text.trimRight_prefix _).subset held))
        simp [front, back]
      · exact here

/-- The lines of a joined block are those that joining leaves. -/
theorem HasLines.joined {block first : List Char} {others : List (List Char)}
    (lines : HasLines block first others) :
    HasLines (joinContinuations block) (absorb first others).1 (absorb first others).2 where
  whole := by rw [joinContinuations, lines.splitAt_eq]
  unbroken := by
    refine List.forall_mem_cons.mpr ⟨newline_not_mem_absorb lines.unbroken, fun line member => ?_⟩
    exact lines.unbroken line
      (List.mem_cons_of_mem first ((absorb_suffix first others).subset member))

theorem joinContinuations_joinContinuations (block : List Char) :
    joinContinuations (joinContinuations block) = joinContinuations block := by
  have lines := (hasLines_splitAt block).joined
  calc joinContinuations (joinContinuations block)
      = Text.join ['\n'] _ := lines.joined.whole
    _ = joinContinuations block := by rw [absorb_eq_self absorb_stops, ← lines.whole]

/-- The lines of a block and those of the joined block: the characters that are not blank are the
same in the same order, the first line ends in a comma only if it is the only one left, and the
further lines are an end of those of the block.  A block whose first line does not end in a comma is
left as it is, and so is a joined block. -/
theorem joinContinuations_lines (block : List Char) :
    ∃ first others head rest,
      HasLines block first others ∧ HasLines (joinContinuations block) head rest ∧
      (∀ other more, HasLines block other more → other = first ∧ more = others) ∧
      (∀ other more, HasLines (joinContinuations block) other more → other = head ∧ more = rest) ∧
      Text.visible (joinContinuations block) = Text.visible block ∧
      (EndsInComma head → rest = []) ∧
      rest <:+ others ∧
      (¬ EndsInComma first → joinContinuations block = block) ∧
      joinContinuations (joinContinuations block) = joinContinuations block := by
  have lines := hasLines_splitAt block
  refine ⟨_, _, _, _, lines, lines.joined, fun _ _ => lines.unique, fun _ _ => lines.joined.unique,
    visible_joinContinuations block, fun comma => absorb_stops (continues_iff.mpr comma),
    absorb_suffix _ _, fun plain => ?_, joinContinuations_joinContinuations block⟩
  exact joinContinuations_eq_self (Bool.eq_false_iff.mpr (mt continues_iff.mp plain))

/-- A blank line is taken in, and joining goes on after it. -/
example : joinContinuations "map,\n  \nsum ,\n all\nMore,\nprose".toList =
    "map, sum , all\nMore,\nprose".toList := by
  decide +kernel

end Docs
end SignatureSearch
