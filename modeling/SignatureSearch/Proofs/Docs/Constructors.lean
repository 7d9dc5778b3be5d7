import SignatureSearch.Docs.Payload
import SignatureSearch.Proofs.Signature.Arguments
import SignatureSearch.Proofs.Signature.Progress
import SignatureSearch.Proofs.Signature.RoundTrip

/-!
# Declared constructors

The declaration of a union writes each constructor with its arguments one after another, and an
argument is put in parentheses only when its text has a space and no bracket at its beginning.  A
constructor is read back with its own arguments when each of them is put in parentheses or is an
atom already; any other argument is taken apart.
-/

namespace SignatureSearch
namespace Docs

open Signature Signature.Grammar

/-- A text is an atom: one name, or one pair of brackets around everything. -/
def IsAtom (text : String) : Prop :=
  ∃ type, Writes DerivesAtom text.toList type

/-- A constructor's argument is put in parentheses or needs none. -/
def StaysOne (arg : String) : Prop :=
  (' ' ∈ arg.toList ∧ arg.toList.head? ≠ some '(' ∧ arg.toList.head? ≠ some '{') ∨ IsAtom arg

/-! ## Arguments as they are printed -/

/-- An accepted argument is printed as a text of the same type, which is an atom when the argument
stays one. -/
theorem caseArgument_spells {arg : String} {type : TypeExpr} (accepted : parse? arg = .ok type) :
    ∃ word, Spells (caseArgument arg).toList word ∧ DerivesType word type ∧
      (DerivesAtom word type ↔ StaysOne arg) := by
  obtain ⟨word, spells, derives⟩ := parse?_eq_ok_iff_writes.mp accepted
  unfold caseArgument
  split
  · rename_i enclosed
    have grouped : ("(" ++ arg ++ ")").toList = '(' :: (arg.toList ++ [')']) := by simp
    rw [grouped]
    exact ⟨_, spells.group, .alone (.bare (.group derives)),
      iff_of_true (.group derives) (.inl enclosed)⟩
  · rename_i bare
    refine ⟨word, spells, derives, fun atom => .inr ⟨type, word, spells, atom⟩, ?_⟩
    rintro (enclosed | ⟨other, written, spelled, atom⟩)
    · exact absurd enclosed bare
    · obtain rfl := spells.unique spelled
      exact derivesType_unique (.alone (.bare atom)) derives ▸ atom

/-- Accepted arguments are printed as texts of the same types, which are atoms when all the
arguments stay one. -/
theorem caseArguments_spell {args : List String} {types : List TypeExpr}
    (accepted : List.Forall₂ (fun arg type => parse? arg = .ok type) args types) :
    ∃ words, Spells (following [' '] (args.map caseArgument)) words.flatten ∧
      Separated (following [' '] (args.map caseArgument)) ∧
      List.Forall₂ DerivesType words types ∧
      (List.Forall₂ DerivesAtom words types ↔ ∀ arg ∈ args, StaysOne arg) := by
  induction accepted with
  | nil => exact ⟨[], .nil, by simp [following, Separated], .nil, iff_of_true .nil (by simp)⟩
  | @cons arg type args types head _ ih =>
      obtain ⟨word, spells, derives, atom⟩ := caseArgument_spells head
      obtain ⟨words, rest, ends, derivesRest, atoms⟩ := ih
      refine ⟨word :: words, ?_, separated_cons_iff.mpr (by decide), .cons derives derivesRest, ?_⟩
      · simpa [following] using leads_blank (spells.append rest ends)
      · rw [List.forall₂_cons, List.forall_mem_cons, atom, atoms]

/-! ## Constructors as they are printed -/

theorem header_of_mem {decl : UnionDecl} {case : String × List String} (listed : case ∈ decl.cases) :
    decl.header =
      "type " ++ decl.signature ++ " = " ++ String.intercalate " | " (decl.cases.map caseText) := by
  unfold UnionDecl.header
  split
  · rename_i none
    rw [none] at listed
    cases listed
  · rfl

/-- A constructor is printed in the documentation of its union as a text that is read as the
constructor applied to its own arguments exactly when each of these stays one. -/
theorem parse?_caseText_iff {decl : UnionDecl} {tag : String} {args : List String}
    {types : List TypeExpr} (listed : (tag, args) ∈ decl.cases) (identifier : IsIdentifier tag)
    (upper : StartsUpper tag)
    (accepted : List.Forall₂ (fun arg type => parse? arg = .ok type) args types) :
    decl.entry.doc = declarationDoc ("type " ++ decl.signature ++ " = " ++
        String.intercalate " | " (decl.cases.map caseText)) decl.comment ∧
      (parse? (caseText (tag, args)) = .ok (.apply ⟨"", tag⟩ types) ↔
        ∀ arg ∈ args, StaysOne arg) := by
  have proper : QualifiedName.Proper ⟨"", tag⟩ := ⟨identifier, .inl ⟨rfl, upper⟩⟩
  obtain ⟨front, spells, constructor⟩ := proper.writes
  obtain ⟨words, rest, ends, derives, atoms⟩ := caseArguments_spell accepted
  have printed : (caseText (tag, args)).toList =
      (QualifiedName.text ⟨"", tag⟩).toList ++ following [' '] (args.map caseArgument) := by
    rw [caseText, toList_intercalate_cons]
    rfl
  refine ⟨by rw [UnionDecl.entry, header_of_mem listed], ?_⟩
  rw [parse?_iff_of_spells (printed ▸ spells.append rest ends), ← atoms]
  exact derivesType_apply_iff constructor proper.ne_unit derives

/-- An applied type and a function are put in parentheses, and a tuple needs none. -/
theorem parse?_caseText_tree :
    parse? "Node (Tree k) (k -> Bool) ( k, k )" =
        .ok (.apply ⟨"", "Node"⟩ [.apply ⟨"", "Tree"⟩ [.var "k"],
          .function [.var "k"] (.apply ⟨"", "Bool"⟩ []), .tuple [.var "k", .var "k"]]) ∧
      ∀ arg ∈ ["Tree k", "k -> Bool", "( k, k )"], StaysOne arg := by
  let decl : UnionDecl :=
    { name := "Tree", comment := "", args := ["k"]
      cases := [("Leaf", []), ("Node", ["Tree k", "k -> Bool", "( k, k )"])] }
  have listed : ("Node", ["Tree k", "k -> Bool", "( k, k )"]) ∈ decl.cases := by simp [decl]
  have printed : caseText ("Node", ["Tree k", "k -> Bool", "( k, k )"]) =
      "Node (Tree k) (k -> Bool) ( k, k )" := by decide +kernel
  have accepted : List.Forall₂ (fun arg type => parse? arg = .ok type)
      ["Tree k", "k -> Bool", "( k, k )"] [.apply ⟨"", "Tree"⟩ [.var "k"],
        .function [.var "k"] (.apply ⟨"", "Bool"⟩ []), .tuple [.var "k", .var "k"]] :=
    .cons (parse?_eq_of_parseWithin (by decide +kernel)) <|
      .cons (parse?_eq_of_parseWithin (by decide +kernel)) <|
        .cons (parse?_eq_of_parseWithin (by decide +kernel)) .nil
  have read : parse? "Node (Tree k) (k -> Bool) ( k, k )" =
      .ok (.apply ⟨"", "Node"⟩ [.apply ⟨"", "Tree"⟩ [.var "k"],
        .function [.var "k"] (.apply ⟨"", "Bool"⟩ []), .tuple [.var "k", .var "k"]]) :=
    parse?_eq_of_parseWithin (by decide +kernel)
  exact ⟨read, (parse?_caseText_iff listed (by decide) (by decide) accepted).2.mp (printed ▸ read)⟩

/-- A function that begins with a bracket gets no parentheses, and the declaration means a function
from the constructor with one argument. -/
theorem parse?_caseText_taken_apart :
    parse? "(a -> b) -> c" = .ok (.function [.function [.var "a"] (.var "b")] (.var "c")) ∧
      (UnionDecl.mk "T" "" [] [("Tag", ["(a -> b) -> c"])]).entry.doc =
        "type T = " ++ caseText ("Tag", ["(a -> b) -> c"]) ∧
      parse? (caseText ("Tag", ["(a -> b) -> c"])) =
        .ok (.function [.apply ⟨"", "Tag"⟩ [.function [.var "a"] (.var "b")]] (.var "c")) := by
  have printed : caseText ("Tag", ["(a -> b) -> c"]) = "Tag (a -> b) -> c" := by decide +kernel
  rw [printed]
  exact ⟨parse?_eq_of_parseWithin (by decide +kernel), by decide +kernel,
    parse?_eq_of_parseWithin (by decide +kernel)⟩

end Docs
end SignatureSearch
