import SignatureSearch.Proofs.Signature.Grammar
import SignatureSearch.Proofs.Signature.Readers

/-!
# What is read is derived

Whenever a reader succeeds, the lexemes of the tokens it has taken derive its value in the grammar.
The proof goes through the tokens as the readers do, each call on fewer of them.
-/

namespace SignatureSearch
namespace Signature

open Grammar

/-- Tokens begin with given lexemes and go on with the rest. -/
def Spelled (tokens : List Token) (word : List Lexeme) (rest : List Token) : Prop :=
  ∃ front, front.map Token.lexeme = word ∧ tokens = front ++ rest

theorem Spelled.nil (tokens : List Token) : Spelled tokens [] tokens :=
  ⟨[], rfl, rfl⟩

theorem Spelled.cons {tokens rest : List Token} {word : List Lexeme} (token : Token)
    (spelled : Spelled tokens word rest) :
    Spelled (token :: tokens) (token.lexeme :: word) rest := by
  obtain ⟨front, rfl, rfl⟩ := spelled
  exact ⟨token :: front, rfl, rfl⟩

theorem Spelled.append {tokens middle rest : List Token} {front back : List Lexeme}
    (first : Spelled tokens front middle) (second : Spelled middle back rest) :
    Spelled tokens (front ++ back) rest := by
  obtain ⟨one, rfl, rfl⟩ := first
  obtain ⟨two, rfl, rfl⟩ := second
  exact ⟨one ++ two, List.map_append, (List.append_assoc one two rest).symm⟩

theorem spelled_nil_iff {tokens rest : List Token} : Spelled tokens [] rest ↔ tokens = rest := by
  simp [Spelled]

theorem spelled_cons_iff {tokens rest : List Token} {lexeme : Lexeme} {word : List Lexeme} :
    Spelled tokens (lexeme :: word) rest ↔
      ∃ position tail, tokens = ⟨lexeme, position⟩ :: tail ∧ Spelled tail word rest := by
  constructor
  · rintro ⟨front, same, rfl⟩
    obtain ⟨token, more, rfl, rfl, rfl⟩ := List.map_eq_cons_iff.mp same
    exact ⟨token.position, more ++ rest, rfl, more, rfl, rfl⟩
  · rintro ⟨position, tail, rfl, spelled⟩
    exact spelled.cons ⟨lexeme, position⟩

theorem spelled_append_iff {tokens rest : List Token} {front back : List Lexeme} :
    Spelled tokens (front ++ back) rest ↔
      ∃ middle, Spelled tokens front middle ∧ Spelled middle back rest := by
  constructor
  · rintro ⟨whole, same, rfl⟩
    obtain ⟨first, second, rfl, rfl, rfl⟩ := List.map_eq_append_iff.mp same
    exact ⟨second ++ rest, ⟨first, rfl, List.append_assoc first second rest⟩, second, rfl, rfl⟩
  · rintro ⟨middle, first, second⟩
    exact first.append second

/-! ## The values of phrases -/

/-- A function does not have a function as its result. -/
def Settled : TypeExpr → Prop
  | .function _ result => result.isFunction = false
  | _ => True

theorem settled_absorbed {params : List TypeExpr} {last : TypeExpr} (settled : Settled last) :
    Settled (absorbed params last) := by
  cases last with
  | function more result => exact settled
  | _ => rfl

/-- What takes in parameters is a function. -/
theorem absorbed_ne {params : List TypeExpr} {last other : TypeExpr}
    (plain : other.isFunction = false) : absorbed params last ≠ other := by
  rintro rfl
  cases last <;> cases plain

namespace Grammar

mutual

/-- No derived function has a function as its result. -/
theorem DerivesType.settled {word : List Lexeme} {type : TypeExpr} :
    DerivesType word type → Settled type
  | .alone part => part.settled
  | .function _ tail => settled_absorbed (tail.settled _ (by simp))

theorem DerivesArrows.settled {word : List Lexeme} {parts : List TypeExpr} :
    DerivesArrows word parts → ∀ part ∈ parts, Settled part
  | .nil => by simp
  | .cons head tail => List.forall_mem_cons.mpr ⟨head.settled, tail.settled⟩

theorem DerivesApplication.settled {word : List Lexeme} {type : TypeExpr} :
    DerivesApplication word type → Settled type
  | .bare atom => atom.settled
  | .applied _ _ _ => trivial

theorem DerivesAtom.settled {word : List Lexeme} {type : TypeExpr} :
    DerivesAtom word type → Settled type
  | .variable _ => trivial
  | .constructor _ _ => trivial
  | .unit => trivial
  | .group inner => inner.settled
  | .tuple _ _ => trivial
  | .emptyRecord => trivial
  | .record _ => trivial
  | .extended _ _ => trivial

end

end Grammar

/-- Taking in parameters at one level is enough where no deeper result is a function. -/
theorem arrows_eq_absorbed {params : List TypeExpr} {last : TypeExpr} (settled : Settled last) :
    TypeExpr.arrows params last = absorbed params last := by
  cases last with
  | function more result =>
      rw [TypeExpr.arrows, absorbed]
      cases result with
      | function _ _ => exact absurd settled (by simp [Settled, TypeExpr.isFunction])
      | _ => rfl
  | _ => rfl

theorem joined_concat (first last : TypeExpr) (middle : List TypeExpr) :
    joined first (middle ++ [last]) = TypeExpr.arrows (first :: middle) last := by
  cases middle with
  | nil => rfl
  | cons second more =>
      change TypeExpr.arrows (first :: ((second :: more) ++ [last]).dropLast)
        (((second :: more) ++ [last]).getLast (by simp)) = _
      rw [List.dropLast_concat, List.getLast_concat]

/-- Applications with arrows between them make one type of their own types. -/
theorem Grammar.DerivesType.of_parts {front back : List Lexeme} {first : TypeExpr}
    {more : List TypeExpr} (head : DerivesApplication front first)
    (tail : DerivesArrows back more) : DerivesType (front ++ back) (joined first more) := by
  rcases List.eq_nil_or_concat more with rfl | ⟨init, last, rfl⟩
  · cases tail
    simpa [joined] using DerivesType.alone head
  · rw [List.concat_eq_append] at tail ⊢
    rw [joined_concat, arrows_eq_absorbed (tail.settled last (by simp))]
    exact .function head tail

theorem constructor?_eq_some_iff {type : TypeExpr} {name : QualifiedName} :
    constructor? type = some name ↔ type = .apply name [] ∧ type ≠ .unit := by
  unfold constructor?
  split
  · rename_i head
    by_cases isUnit : head = { home := "", name := "()" }
    · simp [TypeExpr.unit, isUnit]
    · simp [TypeExpr.unit, isUnit]
  · rename_i other
    constructor
    · intro absurdity
      cases absurdity
    · rintro ⟨same, -⟩
      exact absurd same (other name)

theorem applied_eq_ok_iff {position? : Option Nat} {head type : TypeExpr} {args : List TypeExpr} :
    applied position? head args = .ok type ↔
      args = [] ∧ type = head ∨
        ∃ name arg more, args = arg :: more ∧ head = .apply name [] ∧ head ≠ .unit ∧
          type = .apply name (arg :: more) := by
  cases args with
  | nil => simp [applied, eq_comm]
  | cons arg more =>
      cases found : constructor? head with
      | none =>
          have refused : ∀ name, ¬ (head = .apply name [] ∧ head ≠ .unit) := by
            intro name takes
            rw [constructor?_eq_some_iff.mpr takes] at found
            cases found
          simp only [applied, found, reduceCtorEq, false_and, false_or, false_iff]
          rintro ⟨name, _, _, -, same, notUnit, -⟩
          exact refused name ⟨same, notUnit⟩
      | some name =>
          obtain ⟨rfl, notUnit⟩ := constructor?_eq_some_iff.mp found
          simp only [applied, found, Except.ok.injEq, reduceCtorEq, false_and, false_or]
          constructor
          · rintro rfl
            exact ⟨name, arg, more, rfl, rfl, notUnit, rfl⟩
          · rintro ⟨_, _, _, same, sameHead, -, rfl⟩
            cases same
            cases sameHead
            rfl

theorem derivesAtom_name (text : String) : DerivesAtom [.name text] (ofName text) := by
  unfold ofName
  split
  · rename_i plain
    exact .variable (isVariableName_iff.mp plain)
  · rename_i capital
    exact .constructor (fun plain => capital (isVariableName_iff.mpr plain))
      (ofDotted_eq_iff.mp rfl)

/-! ## Readers -/

mutual

theorem derivesType_of_yields {tokens rest : List Token} {type : TypeExpr}
    (yields : Yields (readType tokens) type rest) :
    ∃ word, Spelled tokens word rest ∧ DerivesType word type := by
  obtain ⟨first, middle, more, head, tail, rfl⟩ := readType_yields_iff.mp yields
  have shorter := head.kept
  obtain ⟨front, spelled, derives⟩ := derivesApplication_of_yields head
  obtain ⟨back, spelledAll, derivesAll⟩ := derivesArrows_of_yields tail
  exact ⟨front ++ back, spelled.append spelledAll, .of_parts derives derivesAll⟩
termination_by (tokens.length, 4)

theorem derivesArrows_of_yields {tokens rest : List Token} {parts : List TypeExpr}
    (yields : Yields (readArrows tokens) parts rest) :
    ∃ word, Spelled tokens word rest ∧ DerivesArrows word parts := by
  rcases readArrows_yields_iff.mp yields with
    ⟨position, tail, part, middle, more, same, head, others, rfl⟩ | ⟨-, rfl, rfl⟩
  · have shorter : middle.length < tokens.length := by
      rw [same]
      exact Nat.lt_succ_of_lt head.kept
    obtain ⟨front, spelled, derives⟩ := derivesApplication_of_yields head
    obtain ⟨back, spelledAll, derivesAll⟩ := derivesArrows_of_yields others
    subst same
    exact ⟨.arrow :: (front ++ back), (spelled.append spelledAll).cons ⟨.arrow, position⟩,
      .cons derives derivesAll⟩
  · exact ⟨[], .nil _, .nil⟩
termination_by (tokens.length, 0)

theorem derivesApplication_of_yields {tokens rest : List Token} {type : TypeExpr}
    (yields : Yields (readApplication tokens) type rest) :
    ∃ word, Spelled tokens word rest ∧ DerivesApplication word type := by
  obtain ⟨head, middle, args, atom, arguments, application⟩ := readApplication_yields_iff.mp yields
  have shorter := atom.kept
  obtain ⟨front, spelled, derives⟩ := derivesAtom_of_yields atom
  obtain ⟨back, spelledAll, derivesAll⟩ := derivesArguments_of_yields arguments
  refine ⟨front ++ back, spelled.append spelledAll, ?_⟩
  rcases applied_eq_ok_iff.mp application with
    ⟨rfl, rfl⟩ | ⟨name, arg, more, rfl, rfl, notUnit, rfl⟩
  · cases derivesAll
    simpa using DerivesApplication.bare derives
  · exact .applied derives notUnit derivesAll
termination_by (tokens.length, 3)

theorem derivesArguments_of_yields {tokens rest : List Token} {args : List TypeExpr}
    (yields : Yields (readArguments tokens) args rest) :
    ∃ word, Spelled tokens word rest ∧ DerivesArguments word args := by
  rcases readArguments_yields_iff.mp yields with
    ⟨-, arg, middle, more, head, others, rfl⟩ | ⟨-, rfl, rfl⟩
  · have shorter := head.kept
    obtain ⟨front, spelled, derives⟩ := derivesAtom_of_yields head
    obtain ⟨back, spelledAll, derivesAll⟩ := derivesArguments_of_yields others
    exact ⟨front ++ back, spelled.append spelledAll, .cons derives derivesAll⟩
  · exact ⟨[], .nil _, .nil⟩
termination_by (tokens.length, 2)

theorem derivesAtom_of_yields {tokens rest : List Token} {type : TypeExpr}
    (yields : Yields (readAtom tokens) type rest) :
    ∃ word, Spelled tokens word rest ∧ DerivesAtom word type := by
  rcases readAtom_yields_iff.mp yields with
    ⟨text, position, rfl, rfl⟩ | ⟨position, tail, rfl, group⟩ | ⟨position, tail, rfl, record⟩
  · exact ⟨[.name text], (Spelled.nil rest).cons ⟨.name text, position⟩, derivesAtom_name text⟩
  · obtain ⟨word, spelled, derives⟩ := derivesGroup_of_yields group
    exact ⟨.openParen :: word, spelled.cons ⟨.openParen, position⟩, derives⟩
  · obtain ⟨word, spelled, derives⟩ := derivesRecord_of_yields record
    exact ⟨.openBrace :: word, spelled.cons ⟨.openBrace, position⟩, derives⟩
termination_by (tokens.length, 1)

theorem derivesGroup_of_yields {tokens rest : List Token} {type : TypeExpr}
    (yields : Yields (readGroup tokens) type rest) :
    ∃ word, Spelled tokens word rest ∧ DerivesAtom (.openParen :: word) type := by
  rcases readGroup_yields_iff.mp yields with
    ⟨position, rfl, rfl⟩ | ⟨-, first, middle, more, position, head, others, rfl⟩
  · exact ⟨[.closeParen], (Spelled.nil rest).cons ⟨.closeParen, position⟩, .unit⟩
  · have shorter := head.kept
    obtain ⟨front, spelled, derives⟩ := derivesType_of_yields head
    obtain ⟨back, spelledAll, derivesAll⟩ := derivesElements_of_yields others
    have close := (Spelled.nil rest).cons ⟨.closeParen, position⟩
    refine ⟨front ++ (back ++ [.closeParen]), spelled.append (spelledAll.append close), ?_⟩
    cases derivesAll with
    | nil => exact .group derives
    | cons second later => exact .tuple derives (.cons second later)
termination_by (tokens.length, 5)

theorem derivesElements_of_yields {tokens rest : List Token} {elements : List TypeExpr}
    (yields : Yields (readElements tokens) elements rest) :
    ∃ word, Spelled tokens word rest ∧ DerivesElements word elements := by
  rcases readElements_yields_iff.mp yields with
    ⟨position, tail, element, middle, more, same, head, others, rfl⟩ | ⟨-, rfl, rfl⟩
  · have shorter : middle.length < tokens.length := by
      rw [same]
      exact Nat.lt_succ_of_lt head.kept
    obtain ⟨front, spelled, derives⟩ := derivesType_of_yields head
    obtain ⟨back, spelledAll, derivesAll⟩ := derivesElements_of_yields others
    subst same
    exact ⟨.comma :: (front ++ back), (spelled.append spelledAll).cons ⟨.comma, position⟩,
      .cons derives derivesAll⟩
  · exact ⟨[], .nil _, .nil⟩
termination_by (tokens.length, 0)

theorem derivesRecord_of_yields {tokens rest : List Token} {type : TypeExpr}
    (yields : Yields (readRecord tokens) type rest) :
    ∃ word, Spelled tokens word rest ∧ DerivesAtom (.openBrace :: word) type := by
  rcases readRecord_yields_iff.mp yields with
    ⟨position, rfl, rfl⟩ | ⟨extension, position, bar, tail, fields, rfl, plain, inner, rfl⟩ |
    ⟨-, -, fields, inner, rfl⟩
  · exact ⟨[.closeBrace], (Spelled.nil rest).cons ⟨.closeBrace, position⟩, .emptyRecord⟩
  · obtain ⟨word, spelled, derives⟩ := derivesFields_of_yields inner
    exact ⟨.name extension :: .bar :: (word ++ [.closeBrace]),
      (spelled.cons ⟨.bar, bar⟩).cons ⟨.name extension, position⟩,
      .extended (isVariableName_iff.mp plain) derives⟩
  · obtain ⟨word, spelled, derives⟩ := derivesFields_of_yields inner
    exact ⟨word ++ [.closeBrace], spelled, .record derives⟩
termination_by (tokens.length, 7)

theorem derivesFields_of_yields {tokens rest : List Token} {fields : List (String × TypeExpr)}
    (yields : Yields (readFields tokens) fields rest) :
    ∃ word, Spelled tokens (word ++ [.closeBrace]) rest ∧ DerivesFields word fields := by
  obtain ⟨first, middle, more, position, head, others, rfl⟩ := readFields_yields_iff.mp yields
  have shorter := head.kept
  obtain ⟨front, spelled, derives⟩ := derivesField_of_yields head
  obtain ⟨back, spelledAll, derivesAll⟩ := derivesMoreFields_of_yields others
  have close := (Spelled.nil rest).cons ⟨.closeBrace, position⟩
  exact ⟨front ++ back, (spelled.append spelledAll).append close, .cons derives derivesAll⟩
termination_by (tokens.length, 6)

theorem derivesMoreFields_of_yields {tokens rest : List Token}
    {fields : List (String × TypeExpr)} (yields : Yields (readMoreFields tokens) fields rest) :
    ∃ word, Spelled tokens word rest ∧ DerivesMoreFields word fields := by
  rcases readMoreFields_yields_iff.mp yields with
    ⟨position, tail, field, middle, more, same, head, others, rfl⟩ | ⟨-, rfl, rfl⟩
  · have shorter : middle.length < tokens.length := by
      rw [same]
      exact Nat.lt_succ_of_lt head.kept
    obtain ⟨front, spelled, derives⟩ := derivesField_of_yields head
    obtain ⟨back, spelledAll, derivesAll⟩ := derivesMoreFields_of_yields others
    subst same
    exact ⟨.comma :: (front ++ back), (spelled.append spelledAll).cons ⟨.comma, position⟩,
      .cons derives derivesAll⟩
  · exact ⟨[], .nil _, .nil⟩
termination_by (tokens.length, 0)

theorem derivesField_of_yields {tokens rest : List Token} {field : String × TypeExpr}
    (yields : Yields (readField tokens) field rest) :
    ∃ word, Spelled tokens word rest ∧ DerivesField word field := by
  obtain ⟨label, position, colon, tail, type, rfl, plain, inner, rfl⟩ :=
    readField_yields_iff.mp yields
  obtain ⟨word, spelled, derives⟩ := derivesType_of_yields inner
  exact ⟨.name label :: .colon :: word,
    (spelled.cons ⟨.colon, colon⟩).cons ⟨.name label, position⟩,
    .labelled (isVariableName_iff.mp plain) derives⟩
termination_by (tokens.length, 5)

end

end Signature
end SignatureSearch
