import SignatureSearch.Proofs.Signature.Soundness

/-!
# The parser is exact

The readers accept exactly the lexemes that the grammar derives, and give the tree that it assigns
to them.  That what is derived is read follows a derivation, and needs to know that the lexeme after
a phrase is not one with which the phrase could go on.  That a sequence of lexemes has one tree at
most comes out of both directions together.
-/

namespace SignatureSearch
namespace Signature

open Grammar

/-! ## What is derived is read -/

/-- A type does not go on with a lexeme. -/
def Closes (lexeme : Lexeme) : Prop :=
  startsAtom lexeme = false ∧ lexeme ≠ .arrow

theorem nextLexeme_of_spelled {tokens rest : List Token} {lexeme : Lexeme} {word : List Lexeme}
    (spelled : Spelled tokens (lexeme :: word) rest) : nextLexeme tokens = lexeme := by
  obtain ⟨position, tail, rfl, -⟩ := spelled_cons_iff.mp spelled
  rfl

namespace Grammar

theorem DerivesAtom.starts {word : List Lexeme} {type : TypeExpr}
    (derives : DerivesAtom word type) :
    ∃ lexeme more, word = lexeme :: more ∧ startsAtom lexeme = true := by
  cases derives <;> exact ⟨_, _, rfl, rfl⟩

theorem DerivesApplication.starts {word : List Lexeme} {type : TypeExpr}
    (derives : DerivesApplication word type) :
    ∃ lexeme more, word = lexeme :: more ∧ startsAtom lexeme = true := by
  cases derives with
  | bare atom => exact atom.starts
  | applied constructor _ _ =>
      obtain ⟨lexeme, more, rfl, starts⟩ := constructor.starts
      exact ⟨lexeme, _, rfl, starts⟩

theorem DerivesType.starts {word : List Lexeme} {type : TypeExpr}
    (derives : DerivesType word type) :
    ∃ lexeme more, word = lexeme :: more ∧ startsAtom lexeme = true := by
  cases derives with
  | alone part => exact part.starts
  | function head _ =>
      obtain ⟨lexeme, more, rfl, starts⟩ := head.starts
      exact ⟨lexeme, _, rfl, starts⟩

/-- No argument starts with an arrow, nor with what comes after the last of them. -/
theorem DerivesArrows.closes {word : List Lexeme} {parts : List TypeExpr}
    (derives : DerivesArrows word parts) {tokens rest : List Token}
    (spelled : Spelled tokens word rest) (closes : startsAtom (nextLexeme rest) = false) :
    startsAtom (nextLexeme tokens) = false := by
  cases derives with
  | nil =>
      obtain rfl := spelled_nil_iff.mp spelled
      exact closes
  | cons _ _ =>
      rw [nextLexeme_of_spelled spelled]
      rfl

theorem DerivesElements.closes {word : List Lexeme} {elements : List TypeExpr}
    (derives : DerivesElements word elements) {tokens rest : List Token}
    (spelled : Spelled tokens word rest) (closes : Closes (nextLexeme rest)) :
    Closes (nextLexeme tokens) := by
  cases derives with
  | nil =>
      obtain rfl := spelled_nil_iff.mp spelled
      exact closes
  | cons _ _ =>
      rw [nextLexeme_of_spelled spelled]
      exact ⟨rfl, by simp⟩

theorem DerivesMoreFields.closes {word : List Lexeme} {fields : List (String × TypeExpr)}
    (derives : DerivesMoreFields word fields) {tokens rest : List Token}
    (spelled : Spelled tokens word rest) (closes : Closes (nextLexeme rest)) :
    Closes (nextLexeme tokens) := by
  cases derives with
  | nil =>
      obtain rfl := spelled_nil_iff.mp spelled
      exact closes
  | cons _ _ =>
      rw [nextLexeme_of_spelled spelled]
      exact ⟨rfl, by simp⟩

theorem closes_closeParen {position : Nat} {rest : List Token} :
    Closes (nextLexeme (⟨.closeParen, position⟩ :: rest)) :=
  ⟨rfl, by simp [nextLexeme]⟩

theorem closes_closeBrace {position : Nat} {rest : List Token} :
    Closes (nextLexeme (⟨.closeBrace, position⟩ :: rest)) :=
  ⟨rfl, by simp [nextLexeme]⟩

theorem DerivesFields.not_startsExtension {word : List Lexeme} {fields : List (String × TypeExpr)}
    (derives : DerivesFields word fields) {tokens rest : List Token}
    (spelled : Spelled tokens word rest) :
    nextLexeme tokens ≠ .closeBrace ∧ startsExtension tokens = false := by
  obtain ⟨head, _⟩ := derives
  obtain ⟨middle, first, _⟩ := spelled_append_iff.mp spelled
  cases head with
  | labelled _ _ =>
      obtain ⟨position, tail, rfl, second⟩ := spelled_cons_iff.mp first
      obtain ⟨colon, tail, rfl, _⟩ := spelled_cons_iff.mp second
      exact ⟨by simp [nextLexeme], rfl⟩

mutual

theorem DerivesType.yields {word : List Lexeme} {type : TypeExpr} :
    DerivesType word type → ∀ {tokens rest : List Token}, Spelled tokens word rest →
      Closes (nextLexeme rest) → Yields (readType tokens) type rest
  | .alone part => by
      intro spelled closes
      refine readType_yields_iff.mpr ⟨type, _, [], part.yields spelled closes.1, ?_, rfl⟩
      exact readArrows_yields_iff.mpr (.inr ⟨closes.2, rfl, rfl⟩)
  | .function head tail => by
      intro spelled closes
      obtain ⟨middle, first, others⟩ := spelled_append_iff.mp spelled
      refine readType_yields_iff.mpr ⟨_, middle, _,
        head.yields first (tail.closes others closes.1), tail.yields others closes, ?_⟩
      rw [joined_concat, arrows_eq_absorbed (tail.settled _ (by simp))]

theorem DerivesArrows.yields {word : List Lexeme} {parts : List TypeExpr} :
    DerivesArrows word parts → ∀ {tokens rest : List Token}, Spelled tokens word rest →
      Closes (nextLexeme rest) → Yields (readArrows tokens) parts rest
  | .nil => by
      intro spelled closes
      obtain rfl := spelled_nil_iff.mp spelled
      exact readArrows_yields_iff.mpr (.inr ⟨closes.2, rfl, rfl⟩)
  | .cons head tail => by
      intro spelled closes
      obtain ⟨position, after, rfl, whole⟩ := spelled_cons_iff.mp spelled
      obtain ⟨middle, first, others⟩ := spelled_append_iff.mp whole
      exact readArrows_yields_iff.mpr (.inl ⟨position, after, _, middle, _, rfl,
        head.yields first (tail.closes others closes.1), tail.yields others closes, rfl⟩)

theorem DerivesApplication.yields {word : List Lexeme} {type : TypeExpr} :
    DerivesApplication word type → ∀ {tokens rest : List Token}, Spelled tokens word rest →
      startsAtom (nextLexeme rest) = false → Yields (readApplication tokens) type rest
  | .bare atom => by
      intro spelled closes
      refine readApplication_yields_iff.mpr ⟨type, _, [], atom.yields spelled, ?_, rfl⟩
      exact readArguments_yields_iff.mpr (.inr ⟨closes, rfl, rfl⟩)
  | .applied constructor notUnit arguments => by
      intro spelled closes
      obtain ⟨middle, first, others⟩ := spelled_append_iff.mp spelled
      refine readApplication_yields_iff.mpr ⟨_, middle, _, constructor.yields first,
        arguments.yields others closes, ?_⟩
      exact applied_eq_ok_iff.mpr (.inr ⟨_, _, _, rfl, rfl, notUnit, rfl⟩)

theorem DerivesArguments.yields {word : List Lexeme} {args : List TypeExpr} :
    DerivesArguments word args → ∀ {tokens rest : List Token}, Spelled tokens word rest →
      startsAtom (nextLexeme rest) = false → Yields (readArguments tokens) args rest
  | .nil => by
      intro spelled closes
      obtain rfl := spelled_nil_iff.mp spelled
      exact readArguments_yields_iff.mpr (.inr ⟨closes, rfl, rfl⟩)
  | .cons head tail => by
      intro spelled closes
      obtain ⟨lexeme, more, same, starts⟩ := head.starts
      have next : nextLexeme _ = lexeme :=
        nextLexeme_of_spelled (by simpa [same] using spelled)
      obtain ⟨middle, first, others⟩ := spelled_append_iff.mp spelled
      exact readArguments_yields_iff.mpr (.inl ⟨next ▸ starts, _, middle, _, head.yields first,
        tail.yields others closes, rfl⟩)

theorem DerivesAtom.yields {word : List Lexeme} {type : TypeExpr} :
    DerivesAtom word type → ∀ {tokens rest : List Token}, Spelled tokens word rest →
      Yields (readAtom tokens) type rest
  | .variable plain => by
      intro spelled
      obtain ⟨position, after, rfl, ended⟩ := spelled_cons_iff.mp spelled
      obtain rfl := spelled_nil_iff.mp ended
      exact readAtom_yields_iff.mpr (.inl ⟨_, position, rfl,
        by simp [ofName, isVariableName_iff.mpr plain]⟩)
  | .constructor notVariable splits => by
      intro spelled
      obtain ⟨position, after, rfl, ended⟩ := spelled_cons_iff.mp spelled
      obtain rfl := spelled_nil_iff.mp ended
      exact readAtom_yields_iff.mpr (.inl ⟨_, position, rfl,
        by simp [ofName, isVariableName_iff, notVariable, ofDotted_of_splits splits]⟩)
  | .unit => by
      intro spelled
      obtain ⟨position, after, rfl, inside⟩ := spelled_cons_iff.mp spelled
      obtain ⟨close, after, rfl, ended⟩ := spelled_cons_iff.mp inside
      obtain rfl := spelled_nil_iff.mp ended
      refine readAtom_yields_iff.mpr (.inr (.inl ⟨position, _, rfl, ?_⟩))
      exact readGroup_yields_iff.mpr (.inl ⟨close, rfl, rfl⟩)
  | .group inner => by
      intro spelled
      obtain ⟨position, after, rfl, inside⟩ := spelled_cons_iff.mp spelled
      obtain ⟨lexeme, more, same, starts⟩ := inner.starts
      have next : nextLexeme _ = lexeme :=
        nextLexeme_of_spelled (by simpa [same] using inside)
      obtain ⟨middle, first, ended⟩ := spelled_append_iff.mp inside
      obtain ⟨close, _, rfl, empty⟩ := spelled_cons_iff.mp ended
      obtain rfl := spelled_nil_iff.mp empty
      refine readAtom_yields_iff.mpr (.inr (.inl ⟨position, after, rfl, ?_⟩))
      refine readGroup_yields_iff.mpr (.inr ⟨?_, type, _, [], close,
        inner.yields first closes_closeParen, ?_, rfl⟩)
      · rintro closed
        rw [next] at closed
        rw [closed] at starts
        cases starts
      · exact readElements_yields_iff.mpr (.inr ⟨by simp [nextLexeme], rfl, rfl⟩)
  | .tuple head tail => by
      intro spelled
      obtain ⟨position, after, rfl, inside⟩ := spelled_cons_iff.mp spelled
      obtain ⟨lexeme, more, same, starts⟩ := head.starts
      have next : nextLexeme _ = lexeme :=
        nextLexeme_of_spelled (by simpa [same] using inside)
      obtain ⟨middle, first, others⟩ := spelled_append_iff.mp inside
      obtain ⟨last, elements, ended⟩ := spelled_append_iff.mp others
      obtain ⟨close, _, rfl, empty⟩ := spelled_cons_iff.mp ended
      obtain rfl := spelled_nil_iff.mp empty
      refine readAtom_yields_iff.mpr (.inr (.inl ⟨position, after, rfl, ?_⟩))
      refine readGroup_yields_iff.mpr (.inr ⟨?_, _, middle, _, close,
        head.yields first (tail.closes elements closes_closeParen),
        tail.yields elements closes_closeParen (by simp [nextLexeme]), rfl⟩)
      rintro closed
      rw [next] at closed
      rw [closed] at starts
      cases starts
  | .emptyRecord => by
      intro spelled
      obtain ⟨position, after, rfl, inside⟩ := spelled_cons_iff.mp spelled
      obtain ⟨close, after, rfl, ended⟩ := spelled_cons_iff.mp inside
      obtain rfl := spelled_nil_iff.mp ended
      refine readAtom_yields_iff.mpr (.inr (.inr ⟨position, _, rfl, ?_⟩))
      exact readRecord_yields_iff.mpr (.inl ⟨close, rfl, rfl⟩)
  | .record inner => by
      intro spelled
      obtain ⟨position, after, rfl, inside⟩ := spelled_cons_iff.mp spelled
      obtain ⟨middle, fields, ended⟩ := spelled_append_iff.mp inside
      obtain ⟨close, _, rfl, empty⟩ := spelled_cons_iff.mp ended
      obtain rfl := spelled_nil_iff.mp empty
      obtain ⟨next, extendsNothing⟩ := inner.not_startsExtension fields
      refine readAtom_yields_iff.mpr (.inr (.inr ⟨position, after, rfl, ?_⟩))
      exact readRecord_yields_iff.mpr (.inr (.inr ⟨next, extendsNothing, _,
        inner.yields fields, rfl⟩))
  | .extended plain inner => by
      intro spelled
      obtain ⟨position, after, rfl, inside⟩ := spelled_cons_iff.mp spelled
      obtain ⟨place, after, rfl, barred⟩ := spelled_cons_iff.mp inside
      obtain ⟨bar, after, rfl, whole⟩ := spelled_cons_iff.mp barred
      obtain ⟨middle, fields, ended⟩ := spelled_append_iff.mp whole
      obtain ⟨close, _, rfl, empty⟩ := spelled_cons_iff.mp ended
      obtain rfl := spelled_nil_iff.mp empty
      refine readAtom_yields_iff.mpr (.inr (.inr ⟨position, _, rfl, ?_⟩))
      exact readRecord_yields_iff.mpr (.inr (.inl ⟨_, place, bar, after, _, rfl,
        isVariableName_iff.mpr plain, inner.yields fields, rfl⟩))

theorem DerivesElements.yields {word : List Lexeme} {elements : List TypeExpr} :
    DerivesElements word elements → ∀ {tokens rest : List Token}, Spelled tokens word rest →
      Closes (nextLexeme rest) → nextLexeme rest ≠ .comma →
        Yields (readElements tokens) elements rest
  | .nil => by
      intro spelled _ stops
      obtain rfl := spelled_nil_iff.mp spelled
      exact readElements_yields_iff.mpr (.inr ⟨stops, rfl, rfl⟩)
  | .cons head tail => by
      intro spelled closes stops
      obtain ⟨position, after, rfl, whole⟩ := spelled_cons_iff.mp spelled
      obtain ⟨middle, first, others⟩ := spelled_append_iff.mp whole
      exact readElements_yields_iff.mpr (.inl ⟨position, after, _, middle, _, rfl,
        head.yields first (tail.closes others closes), tail.yields others closes stops, rfl⟩)

theorem DerivesFields.yields {word : List Lexeme} {fields : List (String × TypeExpr)} :
    DerivesFields word fields → ∀ {tokens rest : List Token} {close : Nat},
      Spelled tokens word (⟨.closeBrace, close⟩ :: rest) → Yields (readFields tokens) fields rest
  | .cons head tail => by
      intro spelled
      obtain ⟨middle, first, others⟩ := spelled_append_iff.mp spelled
      exact readFields_yields_iff.mpr ⟨_, middle, _, _,
        head.yields first (tail.closes others closes_closeBrace),
        tail.yields others closes_closeBrace (by simp [nextLexeme]), rfl⟩

theorem DerivesMoreFields.yields {word : List Lexeme} {fields : List (String × TypeExpr)} :
    DerivesMoreFields word fields → ∀ {tokens rest : List Token}, Spelled tokens word rest →
      Closes (nextLexeme rest) → nextLexeme rest ≠ .comma →
        Yields (readMoreFields tokens) fields rest
  | .nil => by
      intro spelled _ stops
      obtain rfl := spelled_nil_iff.mp spelled
      exact readMoreFields_yields_iff.mpr (.inr ⟨stops, rfl, rfl⟩)
  | .cons head tail => by
      intro spelled closes stops
      obtain ⟨position, after, rfl, whole⟩ := spelled_cons_iff.mp spelled
      obtain ⟨middle, first, others⟩ := spelled_append_iff.mp whole
      exact readMoreFields_yields_iff.mpr (.inl ⟨position, after, _, middle, _, rfl,
        head.yields first (tail.closes others closes), tail.yields others closes stops, rfl⟩)

theorem DerivesField.yields {word : List Lexeme} {field : String × TypeExpr} :
    DerivesField word field → ∀ {tokens rest : List Token}, Spelled tokens word rest →
      Closes (nextLexeme rest) → Yields (readField tokens) field rest
  | .labelled plain inner => by
      intro spelled closes
      obtain ⟨position, after, rfl, second⟩ := spelled_cons_iff.mp spelled
      obtain ⟨colon, after, rfl, type⟩ := spelled_cons_iff.mp second
      exact readField_yields_iff.mpr ⟨_, position, colon, after, _, rfl,
        isVariableName_iff.mpr plain, inner.yields type closes, rfl⟩

end

end Grammar

/-! ## The parser -/

theorem ofTokens_eq_ok_iff {tokens : List Token} {type : TypeExpr} :
    ofTokens tokens = .ok type ↔ Yields (readType tokens) type [] := by
  unfold ofTokens
  split
  · rename_i failed
    simp [failed]
  · rename_i found kept read
    simp [read, eq_comm]
  · rename_i read
    simp [read]

/-- Tokens are read as a type exactly when the grammar derives it from their lexemes. -/
theorem ofTokens_iff_derives {tokens : List Token} {type : TypeExpr} :
    ofTokens tokens = .ok type ↔ DerivesType (tokens.map Token.lexeme) type := by
  rw [ofTokens_eq_ok_iff]
  constructor
  · intro yields
    obtain ⟨_, ⟨front, rfl, same⟩, derives⟩ := derivesType_of_yields yields
    rw [same, List.append_nil]
    exact derives
  · intro derives
    exact derives.yields ⟨tokens, rfl, (List.append_nil tokens).symm⟩ ⟨rfl, by simp [nextLexeme]⟩

/-- Tokens of given lexemes.  What is read does not depend on their positions, so any will do. -/
def tokensOf (word : List Lexeme) : List Token :=
  word.map fun lexeme => ⟨lexeme, 0⟩

theorem map_lexeme_tokensOf (word : List Lexeme) : (tokensOf word).map Token.lexeme = word := by
  simp [tokensOf, Function.comp_def]

theorem spelled_tokensOf (word rest : List Lexeme) :
    Spelled (tokensOf (word ++ rest)) word (tokensOf rest) :=
  ⟨tokensOf word, map_lexeme_tokensOf word, List.map_append⟩

/-- Lexemes write one type at most. -/
theorem derivesType_unique {word : List Lexeme} {type other : TypeExpr}
    (first : DerivesType word type) (second : DerivesType word other) : type = other := by
  rw [← map_lexeme_tokensOf word] at first second
  exact Except.ok.inj
    ((ofTokens_iff_derives.mpr first).symm.trans (ofTokens_iff_derives.mpr second))

/-- Lexemes begin with one atom at most. -/
theorem Grammar.DerivesAtom.prefix_unique {front other rest more : List Lexeme}
    {type otherType : TypeExpr} (first : DerivesAtom front type)
    (second : DerivesAtom other otherType) (same : front ++ rest = other ++ more) :
    type = otherType ∧ rest = more := by
  have spelled := spelled_tokensOf front rest
  rw [same] at spelled
  obtain ⟨sameType, left⟩ :=
    (first.yields spelled).unique (second.yields (spelled_tokensOf other more))
  exact ⟨sameType, by rw [← map_lexeme_tokensOf rest, left, map_lexeme_tokensOf more]⟩

theorem parse?_eq_ok_iff {signature : String} {type : TypeExpr} :
    parse? signature = .ok type ↔
      ∃ tokens, Token.scan signature = .ok tokens ∧
        DerivesType (tokens.map Token.lexeme) type := by
  unfold parse?
  split
  · rename_i stray failed
    simp [failed]
  · rename_i tokens scanned
    rw [scanned]
    simp only [Except.ok.injEq, exists_eq_left', ← ofTokens_iff_derives]
    split
    · rename_i found read
      simp [read]
    · rename_i refusal read
      simp [read]

theorem tokenize_eq_ok_iff {signature : String} {tokens : List Token} :
    Token.tokenize signature = .ok (tokens ++ [⟨.finish, signature.length⟩]) ↔
      Token.scan signature = .ok tokens := by
  unfold Token.tokenize
  split
  · rename_i failed
    simp [failed]
  · rename_i scanned
    simp [scanned]

theorem parse_of_accepted {signature : String} {type : TypeExpr}
    (accepted : parse? signature = .ok type) : parse signature = type := by
  simp [parse, outcome, accepted]

theorem parse_of_refused {signature : String} {error : SyntaxError}
    (refused : parse? signature = .error error) : parse signature = .var signature := by
  simp [parse, outcome, refused]

/-- The parser accepts a signature exactly when it splits into tokens from which the grammar
derives a type, and gives that type; the grammar derives one type at most; and every other
signature is refused with an error and stands for itself as a variable. -/
theorem parse?_exact :
    (∀ (signature : String) (type : TypeExpr), parse? signature = .ok type ↔
      ∃ tokens, Token.tokenize signature = .ok (tokens ++ [⟨.finish, signature.length⟩]) ∧
        DerivesType (tokens.map Token.lexeme) type) ∧
    (∀ (word : List Lexeme) (type other : TypeExpr),
      DerivesType word type → DerivesType word other → type = other) ∧
    ∀ signature : String,
      (¬ ∃ tokens type,
        Token.tokenize signature = .ok (tokens ++ [⟨.finish, signature.length⟩]) ∧
          DerivesType (tokens.map Token.lexeme) type) →
      (∃ error, parse? signature = .error error) ∧ parse signature = .var signature := by
  refine ⟨?_, ?_, ?_⟩
  · intro signature type
    simp only [tokenize_eq_ok_iff, parse?_eq_ok_iff]
  · intro word type other first second
    exact derivesType_unique first second
  · intro signature underivable
    cases parsed : parse? signature with
    | ok type =>
        obtain ⟨tokens, scanned, derives⟩ := parse?_eq_ok_iff.mp parsed
        exact absurd ⟨tokens, type, tokenize_eq_ok_iff.mpr scanned, derives⟩ underivable
    | error error => exact ⟨⟨error, rfl⟩, parse_of_refused parsed⟩

/-- An arrow in parentheses at the end gives its parts to the function around it; an arrow in
parentheses before an arrow is a parameter. -/
example :
    parse? "(a -> b) -> (a -> ())" =
      .ok (.function [.function [.var "a"] (.var "b"), .var "a"] .unit) := by cbv

end Signature
end SignatureSearch
