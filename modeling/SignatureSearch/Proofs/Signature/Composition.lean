import SignatureSearch.Proofs.Signature.Progress
import SignatureSearch.Proofs.Signature.RoundTrip

/-!
# Signatures put together

A signature keeps its tree inside parentheses, and after an arrow the parentheses make no
difference: a function takes the parameters of its last part into its own list, whether the last
part is read as a whole or arrow by arrow.
-/

namespace SignatureSearch
namespace Signature

open Grammar

/-! ## Arrows -/

/-- Parameters may be added at the front before or after a function result is taken apart. -/
theorem arrows_arrows (front back : List TypeExpr) (result : TypeExpr) :
    TypeExpr.arrows front (TypeExpr.arrows back result) =
      TypeExpr.arrows (front ++ back) result := by
  fun_induction TypeExpr.arrows back result with
  | case1 back more result ih => rw [ih, TypeExpr.arrows, List.append_assoc]
  | case2 back result flat => rw [TypeExpr.arrows]

/-- A last part that is put together from parts gives these to the whole. -/
theorem joined_append (first second : TypeExpr) (front back : List TypeExpr) :
    joined first (front ++ [joined second back]) = joined first (front ++ second :: back) := by
  rcases List.eq_nil_or_concat back with rfl | ⟨init, last, rfl⟩
  · rfl
  · have regrouped : front ++ second :: (init ++ [last]) = (front ++ second :: init) ++ [last] := by
      simp
    rw [List.concat_eq_append, joined_concat, joined_concat, regrouped, joined_concat,
      arrows_arrows, List.cons_append]

namespace Grammar

/-- A type is one or more applications between arrows, joined. -/
theorem DerivesType.parts {word : List Lexeme} {type : TypeExpr} (derives : DerivesType word type) :
    ∃ front back first more, word = front ++ back ∧ DerivesApplication front first ∧
      DerivesArrows back more ∧ type = joined first more := by
  cases derives with
  | alone part => exact ⟨word, [], type, [], (List.append_nil word).symm, part, .nil, rfl⟩
  | function head tail =>
      refine ⟨_, _, _, _, rfl, head, tail, ?_⟩
      rw [joined_concat, arrows_eq_absorbed (tail.settled _ (by simp))]

theorem DerivesArrows.append {front back : List Lexeme} {parts others : List TypeExpr} :
    DerivesArrows front parts → DerivesArrows back others →
      DerivesArrows (front ++ back) (parts ++ others)
  | .nil, second => second
  | .cons head tail, second => by
      rw [List.cons_append, List.append_assoc]
      exact .cons head (tail.append second)

/-- A type before an arrow and one after it make the same type whether or not the one after it
stands in parentheses. -/
theorem DerivesType.arrow {front back : List Lexeme} {type result : TypeExpr}
    (before : DerivesType front type) (after : DerivesType back result) :
    ∃ whole, DerivesType (front ++ .arrow :: back) whole ∧
      DerivesType (front ++ .arrow :: .openParen :: (back ++ [.closeParen])) whole := by
  obtain ⟨head, tail, first, more, rfl, starts, arrows⟩ := before.parts
  obtain ⟨head', tail', second, others, rfl, starts', arrows', rfl⟩ := after.parts
  have apart : DerivesArrows (.arrow :: (head' ++ tail')) (second :: others) :=
    .cons starts' arrows'
  have together : DerivesArrows (.arrow :: (.openParen :: (head' ++ tail' ++ [.closeParen]) ++ []))
      [joined second others] :=
    .cons (.bare (.group (.of_parts starts' arrows'))) .nil
  refine ⟨joined first (more ++ second :: others), ?_, ?_⟩
  · rw [List.append_assoc]
    exact .of_parts starts (arrows.1.append apart)
  · rw [← joined_append, List.append_assoc]
    rw [List.append_nil] at together
    exact .of_parts starts (arrows.1.append together)

end Grammar

/-! ## Texts -/

/-- An arrow between two texts stands between what they spell. -/
theorem Spells.arrow_between {front back : List Char} {first second : List Lexeme}
    (before : Spells front first) (after : Spells back second) :
    Spells (front ++ (' ' :: '-' :: '>' :: ' ' :: back)) (first ++ .arrow :: second) :=
  before.append (leads_arrow after) (separated_cons_iff.mpr (by decide))

/-- **Redundant parentheses.**  Parentheses around a whole signature change nothing, and neither do
parentheses around all that follows an arrow, whatever stands on both sides of it. -/
theorem parse?_parenthesized {front back : String} {type result : TypeExpr}
    (before : parse? front = .ok type) (after : parse? back = .ok result) :
    parse? ("(" ++ back ++ ")") = parse? back ∧
      ∃ whole, parse? (front ++ " -> " ++ back) = .ok whole ∧
        parse? (front ++ " -> (" ++ back ++ ")") = .ok whole := by
  obtain ⟨first, spells, derives⟩ := parse?_eq_ok_iff_writes.mp before
  obtain ⟨second, spells', derives'⟩ := parse?_eq_ok_iff_writes.mp after
  obtain ⟨whole, apart, together⟩ := derives.arrow derives'
  have grouped : ("(" ++ back ++ ")").toList = '(' :: (back.toList ++ [')']) := by simp
  have plain : (front ++ " -> " ++ back).toList =
      front.toList ++ (' ' :: '-' :: '>' :: ' ' :: back.toList) := by simp
  have closed : (front ++ " -> (" ++ back ++ ")").toList =
      front.toList ++ (' ' :: '-' :: '>' :: ' ' :: '(' :: (back.toList ++ [')'])) := by simp
  refine ⟨?_, whole, ?_, ?_⟩
  · rw [after]
    exact parse?_of_spells (grouped ▸ spells'.group) (.alone (.bare (.group derives')))
  · exact parse?_of_spells (plain ▸ spells.arrow_between spells') apart
  · exact parse?_of_spells (closed ▸ spells.arrow_between spells'.group) together

/-- A function in parentheses is a parameter before an arrow and gives its own parameters after
one. -/
theorem parse?_parenthesized_curried :
    parse? "(a -> b) -> List a" =
        .ok (.function [.function [.var "a"] (.var "b")] (.apply ⟨"", "List"⟩ [.var "a"])) ∧
      parse? "((Int -> (b)) -> ())" =
        .ok (.function [.function [.apply ⟨"", "Int"⟩ []] (.var "b")] .unit) ∧
      ∃ whole, parse? ("(a -> b) -> List a" ++ " -> " ++ "((Int -> (b)) -> ())") = .ok whole ∧
        parse? ("(a -> b) -> List a" ++ " -> (" ++ "((Int -> (b)) -> ())" ++ ")") = .ok whole := by
  have before : parse? "(a -> b) -> List a" =
      .ok (.function [.function [.var "a"] (.var "b")] (.apply ⟨"", "List"⟩ [.var "a"])) :=
    parse?_eq_of_parseWithin (by decide +kernel)
  have after : parse? "((Int -> (b)) -> ())" =
      .ok (.function [.function [.apply ⟨"", "Int"⟩ []] (.var "b")] .unit) :=
    parse?_eq_of_parseWithin (by decide +kernel)
  exact ⟨before, after, (parse?_parenthesized before after).2⟩

end Signature
end SignatureSearch
