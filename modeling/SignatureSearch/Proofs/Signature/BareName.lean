import SignatureSearch.Proofs.Signature.Exactness

/-!
# Signatures of a single variable

A signature is read as a variable exactly when it is the name of the variable in some number of
parentheses.  An arrow, an argument, a comma or a brace always leaves another node at the root, so
nothing else that is accepted reads as a variable.
-/

namespace SignatureSearch
namespace Signature

open Grammar

/-- A name in some number of parentheses. -/
def bracketed (depth : Nat) (name : String) : List Lexeme :=
  List.replicate depth .openParen ++ .name name :: List.replicate depth .closeParen

theorem bracketed_succ (depth : Nat) (name : String) :
    bracketed (depth + 1) name = .openParen :: (bracketed depth name ++ [.closeParen]) := by
  have closing : List.replicate (depth + 1) Lexeme.closeParen =
      List.replicate depth .closeParen ++ [.closeParen] := List.replicate_succ'
  rw [bracketed, closing, List.replicate_succ, bracketed, List.cons_append, List.append_assoc,
    List.cons_append]

namespace Grammar

/-! ## What derives a variable -/

mutual

/-- Only a name in parentheses derives a variable: a derivation goes through groups down to the
name. -/
theorem DerivesType.bracketed {word : List Lexeme} {type : TypeExpr} {name : String} :
    DerivesType word type → type = .var name →
      VariableName name ∧ ∃ depth, word = Signature.bracketed depth name
  | .alone part => part.bracketed
  | .function _ _ => fun same => absurd same (absorbed_ne rfl)

theorem DerivesApplication.bracketed {word : List Lexeme} {type : TypeExpr} {name : String} :
    DerivesApplication word type → type = .var name →
      VariableName name ∧ ∃ depth, word = Signature.bracketed depth name
  | .bare atom => atom.bracketed
  | .applied _ _ _ => nofun

theorem DerivesAtom.bracketed {word : List Lexeme} {type : TypeExpr} {name : String} :
    DerivesAtom word type → type = .var name →
      VariableName name ∧ ∃ depth, word = Signature.bracketed depth name
  | .variable plain => by
      intro same
      cases same
      exact ⟨plain, 0, rfl⟩
  | .group inner => by
      intro same
      obtain ⟨plain, depth, rfl⟩ := inner.bracketed same
      exact ⟨plain, depth + 1, (bracketed_succ depth name).symm⟩
  | .constructor _ _ | .unit | .tuple _ _ | .emptyRecord | .record _ | .extended _ _ => nofun

end

theorem derivesType_bracketed {name : String} (plain : VariableName name) (depth : Nat) :
    DerivesType (Signature.bracketed depth name) (.var name) := by
  induction depth with
  | zero => exact .alone (.bare (.variable plain))
  | succ depth ih =>
      rw [bracketed_succ]
      exact .alone (.bare (.group ih))

theorem derivesType_var_iff {word : List Lexeme} {name : String} :
    DerivesType word (.var name) ↔
      VariableName name ∧ ∃ depth, word = Signature.bracketed depth name := by
  constructor
  · intro derives
    exact derives.bracketed rfl
  · rintro ⟨plain, depth, rfl⟩
    exact derivesType_bracketed plain depth

end Grammar

/-! ## What reads as a variable -/

/-- The tokens of a text are the name of a variable in some number of parentheses. -/
def BareName (text name : String) : Prop :=
  VariableName name ∧ ∃ tokens depth,
    Token.tokenize text = .ok (tokens ++ [⟨.finish, text.length⟩]) ∧
      tokens.map Token.lexeme = bracketed depth name

theorem parse?_eq_var_iff {text name : String} :
    parse? text = .ok (.var name) ↔ BareName text name := by
  simp only [parse?_eq_ok_iff, derivesType_var_iff, BareName, tokenize_eq_ok_iff]
  constructor
  · rintro ⟨tokens, scanned, plain, depth, same⟩
    exact ⟨plain, tokens, depth, scanned, same⟩
  · rintro ⟨plain, tokens, depth, scanned, same⟩
    exact ⟨tokens, scanned, plain, depth, same⟩

/-- A text stands for a variable when it is refused, for the one named by all of it, or when it is
the name of the variable in parentheses. -/
theorem parse_eq_var_iff {text name : String} :
    parse text = .var name ↔
      (∃ error, parse? text = .error error) ∧ name = text ∨ BareName text name := by
  rw [← parse?_eq_var_iff]
  cases read : parse? text with
  | ok type => simp [parse_of_accepted read]
  | error error => simp [parse_of_refused read, eq_comm]

end Signature
end SignatureSearch
