import SignatureSearch.Signature.Parser

/-!
# What the readers do

One law for each reader of the grammar: when it succeeds, with which value, and which tokens it
leaves.  The laws say what the readers read before and after one another; nothing else about the
readers is used later.
-/

namespace SignatureSearch
namespace Signature

/-- A step succeeds with a value and leaves some tokens. -/
def Yields {α : Type} {within : List Token → Prop} (reading : Except Refusal (α × Subtype within))
    (value : α) (rest : List Token) : Prop :=
  ∃ kept, reading = .ok (value, ⟨rest, kept⟩)

/-- The lexeme that comes next, which is the end after all tokens. -/
def nextLexeme : List Token → Lexeme
  | [] => .finish
  | token :: _ => token.lexeme

section

variable {α : Type} {within : List Token → Prop}

@[simp]
theorem yields_ok {found value : α} {left : Subtype within} {rest : List Token} :
    Yields (.ok (found, left)) value rest ↔ value = found ∧ rest = left.1 := by
  constructor
  · rintro ⟨kept, same⟩
    cases same
    exact ⟨rfl, rfl⟩
  · rintro ⟨rfl, rfl⟩
    exact ⟨left.2, rfl⟩

@[simp]
theorem not_yields_error {refusal : Refusal} {value : α} {rest : List Token} :
    ¬ Yields (.error refusal : Except Refusal (α × Subtype within)) value rest := by
  rintro ⟨kept, same⟩
  cases same

/-- What a step leaves is within its bound. -/
theorem Yields.kept {reading : Except Refusal (α × Subtype within)} {value : α}
    {rest : List Token} (yields : Yields reading value rest) : within rest :=
  yields.1

/-- A step gives one value and leaves the same tokens. -/
theorem Yields.unique {reading : Except Refusal (α × Subtype within)} {value other : α}
    {rest more : List Token} (first : Yields reading value rest)
    (second : Yields reading other more) : value = other ∧ rest = more := by
  obtain ⟨_, rfl⟩ := first
  exact (yields_ok.mp second).imp Eq.symm Eq.symm

end

theorem nextLexeme_eq_iff {tokens : List Token} {lexeme : Lexeme} (inner : lexeme ≠ .finish) :
    nextLexeme tokens = lexeme ↔ ∃ position tail, tokens = ⟨lexeme, position⟩ :: tail := by
  cases tokens with
  | nil => simpa [nextLexeme] using inner.symm
  | cons token tail =>
      obtain ⟨found, position⟩ := token
      simp [nextLexeme]

/-- A reader takes items as long as a mark comes before each. -/
structure Repeats {α : Type} (mark : Lexeme) (item : (tokens : List Token) → Reading α tokens)
    (again : (tokens : List Token) → Repetition α tokens) : Prop where
  /-- It goes on at the mark. -/
  goes : ∀ position tail, again (⟨mark, position⟩ :: tail) =
    match item tail with
    | .error refusal => .error refusal
    | .ok (first, ⟨middle, shorter⟩) =>
        match again middle with
        | .error refusal => .error refusal
        | .ok (more, ⟨rest, kept⟩) =>
            .ok (first :: more,
              ⟨rest, Nat.le_succ_of_le (Nat.le_trans kept (Nat.le_of_lt shorter))⟩)
  /-- It stops at everything else. -/
  stops : ∀ tokens, nextLexeme tokens ≠ mark → again tokens = .ok ([], ⟨tokens, Nat.le_refl _⟩)

/-- A reader that takes items as long as a mark comes before each goes on at the mark and stops at
everything else. -/
theorem Repeats.yields_iff {α : Type} {mark : Lexeme}
    {item : (tokens : List Token) → Reading α tokens}
    {again : (tokens : List Token) → Repetition α tokens} (repeats : Repeats mark item again)
    (inner : mark ≠ .finish) {tokens rest : List Token} {items : List α} :
    Yields (again tokens) items rest ↔
      (∃ position tail first middle more, tokens = ⟨mark, position⟩ :: tail ∧
        Yields (item tail) first middle ∧ Yields (again middle) more rest ∧
          items = first :: more) ∨
        nextLexeme tokens ≠ mark ∧ items = [] ∧ rest = tokens := by
  by_cases next : nextLexeme tokens = mark
  · obtain ⟨position, tail, rfl⟩ := (nextLexeme_eq_iff inner).mp next
    simp only [nextLexeme, ne_eq, not_true_eq_false, false_and, or_false]
    rw [repeats.goes]
    constructor
    · rintro ⟨_, read⟩
      split at read
      · cases read
      · rename_i first middle _ head
        split at read
        · cases read
        · rename_i more _ _ others
          cases read
          exact ⟨position, tail, first, middle, more, rfl, ⟨_, head⟩, ⟨_, others⟩, rfl⟩
    · rintro ⟨_, _, first, middle, more, same, ⟨_, head⟩, ⟨_, others⟩, rfl⟩
      cases same
      simp [head, others]
  · rw [repeats.stops tokens next, yields_ok]
    constructor
    · rintro ⟨rfl, rfl⟩
      exact .inr ⟨next, rfl, rfl⟩
    · rintro (⟨position, tail, _, _, _, rfl, -⟩ | ⟨-, rfl, rfl⟩)
      · exact absurd rfl next
      · exact ⟨rfl, rfl⟩

/-! ## Marks and labels -/

theorem readMark_yields_iff {mark : Lexeme} {tokens rest : List Token} :
    Yields (readMark mark tokens) () rest ↔ ∃ position, tokens = ⟨mark, position⟩ :: rest := by
  cases tokens with
  | nil => simp [readMark]
  | cons token tail =>
      obtain ⟨lexeme, position⟩ := token
      by_cases same : lexeme = mark
      · simp [readMark, same, eq_comm]
      · simp [readMark, same]

theorem readLabel_yields_iff {tokens rest : List Token} {label : String} :
    Yields (readLabel tokens) label rest ↔
      isVariableName label = true ∧ ∃ position, tokens = ⟨.name label, position⟩ :: rest := by
  cases tokens with
  | nil => simp [readLabel]
  | cons token tail =>
      obtain ⟨lexeme, position⟩ := token
      cases lexeme with
      | name text =>
          by_cases plain : isVariableName text = true
          · simp only [readLabel, plain, if_true, yields_ok]
            constructor
            · rintro ⟨rfl, rfl⟩
              exact ⟨plain, position, rfl⟩
            · rintro ⟨-, _, same⟩
              cases same
              exact ⟨rfl, rfl⟩
          · simp only [readLabel, plain, if_false, Bool.false_eq_true, not_yields_error, false_iff]
            rintro ⟨named, _, same⟩
            cases same
            exact plain named
      | _ => simp [readLabel]

theorem startsExtension_iff {tokens : List Token} :
    startsExtension tokens = true ↔
      ∃ text position bar rest, tokens = ⟨.name text, position⟩ :: ⟨.bar, bar⟩ :: rest := by
  unfold startsExtension
  split
  · simp
  · rename_i other
    constructor
    · intro absurdity
      cases absurdity
    · rintro ⟨text, position, bar, rest, rfl⟩
      exact absurd rfl (other _ _ _ _)

/-! ## Types and applications -/

theorem readType_yields_iff {tokens rest : List Token} {type : TypeExpr} :
    Yields (readType tokens) type rest ↔
      ∃ first middle more, Yields (readApplication tokens) first middle ∧
        Yields (readArrows middle) more rest ∧ type = joined first more := by
  rw [readType]
  constructor
  · rintro ⟨_, read⟩
    split at read
    · cases read
    · rename_i first middle _ head
      split at read
      · cases read
      · rename_i more _ _ tail
        cases read
        exact ⟨first, middle, more, ⟨_, head⟩, ⟨_, tail⟩, rfl⟩
  · rintro ⟨first, middle, more, ⟨_, head⟩, ⟨_, tail⟩, rfl⟩
    simp [head, tail]

theorem repeats_readArrows : Repeats .arrow readApplication readArrows where
  goes := by
    intro position tail
    rw [readArrows]
    split
    · simp [*]
    · split <;> simp [*]
  stops := by
    intro tokens next
    rw [readArrows]
    rintro position tail rfl
    exact next rfl

theorem readArrows_yields_iff {tokens rest : List Token} {parts : List TypeExpr} :
    Yields (readArrows tokens) parts rest ↔
      (∃ position tail part middle more, tokens = ⟨.arrow, position⟩ :: tail ∧
        Yields (readApplication tail) part middle ∧ Yields (readArrows middle) more rest ∧
          parts = part :: more) ∨
        nextLexeme tokens ≠ .arrow ∧ parts = [] ∧ rest = tokens :=
  repeats_readArrows.yields_iff (by simp)

theorem readApplication_yields_iff {tokens rest : List Token} {type : TypeExpr} :
    Yields (readApplication tokens) type rest ↔
      ∃ head middle args, Yields (readAtom tokens) head middle ∧
        Yields (readArguments middle) args rest ∧
          applied (tokens.head?.map Token.position) head args = .ok type := by
  rw [readApplication]
  constructor
  · rintro ⟨_, read⟩
    split at read
    · cases read
    · rename_i head middle _ atom
      split at read
      · cases read
      · rename_i args _ _ arguments
        split at read
        · cases read
        · rename_i found application
          cases read
          exact ⟨head, middle, args, ⟨_, atom⟩, ⟨_, arguments⟩, application⟩
  · rintro ⟨head, middle, args, ⟨_, atom⟩, ⟨_, arguments⟩, application⟩
    simp [atom, arguments, application]

theorem readArguments_yields_iff {tokens rest : List Token} {args : List TypeExpr} :
    Yields (readArguments tokens) args rest ↔
      (startsAtom (nextLexeme tokens) = true ∧ ∃ arg middle more,
        Yields (readAtom tokens) arg middle ∧ Yields (readArguments middle) more rest ∧
          args = arg :: more) ∨
        startsAtom (nextLexeme tokens) = false ∧ args = [] ∧ rest = tokens := by
  cases tokens with
  | nil => simp [readArguments, nextLexeme, startsAtom]
  | cons token tail =>
      rw [readArguments]
      by_cases starts : startsAtom token.lexeme = true
      · simp only [nextLexeme, starts, if_true, true_and, Bool.true_eq_false, false_and, or_false]
        constructor
        · rintro ⟨_, read⟩
          split at read
          · cases read
          · rename_i arg middle _ head
            split at read
            · cases read
            · rename_i more _ _ others
              cases read
              exact ⟨arg, middle, more, ⟨_, head⟩, ⟨_, others⟩, rfl⟩
        · rintro ⟨arg, middle, more, ⟨_, head⟩, ⟨_, others⟩, rfl⟩
          simp [head, others]
      · simp [nextLexeme, starts]

/-! ## Atoms -/

theorem readAtom_yields_iff {tokens rest : List Token} {type : TypeExpr} :
    Yields (readAtom tokens) type rest ↔
      (∃ text position, tokens = ⟨.name text, position⟩ :: rest ∧ type = ofName text) ∨
        (∃ position tail, tokens = ⟨.openParen, position⟩ :: tail ∧
          Yields (readGroup tail) type rest) ∨
        ∃ position tail, tokens = ⟨.openBrace, position⟩ :: tail ∧
          Yields (readRecord tail) type rest := by
  constructor
  · rintro ⟨kept, read⟩
    rw [readAtom.eq_def] at read
    split at read
    · rename_i text position tail
      cases read
      exact .inl ⟨text, position, rfl, rfl⟩
    · rename_i position tail
      split at read
      · cases read
      · rename_i inner
        cases read
        exact .inr (.inl ⟨position, tail, rfl, _, inner⟩)
    · rename_i position tail
      split at read
      · cases read
      · rename_i inner
        cases read
        exact .inr (.inr ⟨position, tail, rfl, _, inner⟩)
    · cases read
  · rintro (⟨text, position, rfl, rfl⟩ | ⟨position, tail, rfl, _, inner⟩ |
      ⟨position, tail, rfl, _, inner⟩)
    · simp [readAtom]
    · simp [readAtom, inner]
    · simp [readAtom, inner]

theorem readGroup_yields_iff {tokens rest : List Token} {type : TypeExpr} :
    Yields (readGroup tokens) type rest ↔
      (∃ position, tokens = ⟨.closeParen, position⟩ :: rest ∧ type = .unit) ∨
        nextLexeme tokens ≠ .closeParen ∧ ∃ first middle more position,
          Yields (readType tokens) first middle ∧
            Yields (readElements middle) more (⟨.closeParen, position⟩ :: rest) ∧
              type = enclosed first more := by
  constructor
  · rintro ⟨kept, read⟩
    rw [readGroup.eq_def] at read
    split at read
    · rename_i position tail
      cases read
      exact .inl ⟨position, rfl, rfl⟩
    · rename_i other
      split at read
      · cases read
      · rename_i first middle _ head
        split at read
        · cases read
        · rename_i more last _ others
          split at read
          · cases read
          · rename_i final _ close
            cases read
            obtain ⟨position, rfl⟩ := readMark_yields_iff.mp ⟨_, close⟩
            refine .inr ⟨fun next => ?_, first, middle, more, position, ⟨_, head⟩, ⟨_, others⟩,
              rfl⟩
            obtain ⟨position, tail, rfl⟩ := (nextLexeme_eq_iff (by simp)).mp next
            exact other _ _ rfl
  · rintro (⟨position, rfl, rfl⟩ |
      ⟨next, first, middle, more, position, ⟨_, head⟩, ⟨_, others⟩, rfl⟩)
    · simp [readGroup]
    · rw [readGroup]
      · simp [head, others, readMark]
      · rintro position tail rfl
        exact next rfl

theorem repeats_readElements : Repeats .comma readType readElements where
  goes := by
    intro position tail
    rw [readElements]
    split
    · simp [*]
    · split <;> simp [*]
  stops := by
    intro tokens next
    rw [readElements]
    rintro position tail rfl
    exact next rfl

theorem readElements_yields_iff {tokens rest : List Token} {elements : List TypeExpr} :
    Yields (readElements tokens) elements rest ↔
      (∃ position tail element middle more, tokens = ⟨.comma, position⟩ :: tail ∧
        Yields (readType tail) element middle ∧ Yields (readElements middle) more rest ∧
          elements = element :: more) ∨
        nextLexeme tokens ≠ .comma ∧ elements = [] ∧ rest = tokens :=
  repeats_readElements.yields_iff (by simp)

/-! ## Records -/

theorem readRecord_yields_iff {tokens rest : List Token} {type : TypeExpr} :
    Yields (readRecord tokens) type rest ↔
      (∃ position, tokens = ⟨.closeBrace, position⟩ :: rest ∧ type = .record [] none) ∨
        (∃ extension position bar tail fields,
          tokens = ⟨.name extension, position⟩ :: ⟨.bar, bar⟩ :: tail ∧
            isVariableName extension = true ∧ Yields (readFields tail) fields rest ∧
              type = .record fields (some extension)) ∨
        nextLexeme tokens ≠ .closeBrace ∧ startsExtension tokens = false ∧
          ∃ fields, Yields (readFields tokens) fields rest ∧ type = .record fields none := by
  constructor
  · rintro ⟨kept, read⟩
    rw [readRecord.eq_def] at read
    split at read
    · rename_i position tail
      cases read
      exact .inl ⟨position, rfl, rfl⟩
    · rename_i other
      split at read
      · rename_i extends_
        obtain ⟨text, position, bar, tail, rfl⟩ := startsExtension_iff.mp extends_
        split at read
        · cases read
        · rename_i extension middle _ label
          obtain ⟨plain, place, same⟩ := readLabel_yields_iff.mp ⟨_, label⟩
          cases same
          split at read
          · cases read
          · rename_i fields _ _ inner
            cases read
            exact .inr (.inl ⟨text, position, bar, tail, fields, rfl, plain, ⟨_, inner⟩, rfl⟩)
      · rename_i extendsNothing
        split at read
        · cases read
        · rename_i fields _ _ inner
          cases read
          have plain := Bool.eq_false_iff.mpr extendsNothing
          refine .inr (.inr ⟨fun next => ?_, plain, fields, ⟨_, inner⟩, rfl⟩)
          obtain ⟨position, tail, rfl⟩ := (nextLexeme_eq_iff (by simp)).mp next
          exact other _ _ rfl
  · rintro (⟨position, rfl, rfl⟩ |
      ⟨extension, position, bar, tail, fields, rfl, plain, ⟨_, inner⟩, rfl⟩ |
      ⟨next, extendsNothing, fields, ⟨_, inner⟩, rfl⟩)
    · simp [readRecord]
    · simp [readRecord, startsExtension, readLabel, plain, inner]
    · rw [readRecord]
      · simp [extendsNothing, inner]
      · rintro position tail rfl
        exact next rfl

theorem readFields_yields_iff {tokens rest : List Token} {fields : List (String × TypeExpr)} :
    Yields (readFields tokens) fields rest ↔
      ∃ first middle more position, Yields (readField tokens) first middle ∧
        Yields (readMoreFields middle) more (⟨.closeBrace, position⟩ :: rest) ∧
          fields = first :: more := by
  rw [readFields]
  constructor
  · rintro ⟨_, read⟩
    split at read
    · cases read
    · rename_i first middle _ head
      split at read
      · cases read
      · rename_i more last _ others
        split at read
        · cases read
        · rename_i final _ close
          cases read
          obtain ⟨position, rfl⟩ := readMark_yields_iff.mp ⟨_, close⟩
          exact ⟨first, middle, more, position, ⟨_, head⟩, ⟨_, others⟩, rfl⟩
  · rintro ⟨first, middle, more, position, ⟨_, head⟩, ⟨_, others⟩, rfl⟩
    simp [head, others, readMark]

theorem repeats_readMoreFields : Repeats .comma readField readMoreFields where
  goes := by
    intro position tail
    rw [readMoreFields]
    split
    · simp [*]
    · split <;> simp [*]
  stops := by
    intro tokens next
    rw [readMoreFields]
    rintro position tail rfl
    exact next rfl

theorem readMoreFields_yields_iff {tokens rest : List Token}
    {fields : List (String × TypeExpr)} :
    Yields (readMoreFields tokens) fields rest ↔
      (∃ position tail field middle more, tokens = ⟨.comma, position⟩ :: tail ∧
        Yields (readField tail) field middle ∧ Yields (readMoreFields middle) more rest ∧
          fields = field :: more) ∨
        nextLexeme tokens ≠ .comma ∧ fields = [] ∧ rest = tokens :=
  repeats_readMoreFields.yields_iff (by simp)

theorem readField_yields_iff {tokens rest : List Token} {field : String × TypeExpr} :
    Yields (readField tokens) field rest ↔
      ∃ label position colon tail type,
        tokens = ⟨.name label, position⟩ :: ⟨.colon, colon⟩ :: tail ∧
          isVariableName label = true ∧ Yields (readType tail) type rest ∧
            field = (label, type) := by
  rw [readField]
  constructor
  · rintro ⟨_, read⟩
    split at read
    · cases read
    · rename_i label middle _ name
      obtain ⟨plain, position, rfl⟩ := readLabel_yields_iff.mp ⟨_, name⟩
      split at read
      · cases read
      · rename_i tail _ mark
        obtain ⟨colon, rfl⟩ := readMark_yields_iff.mp ⟨_, mark⟩
        split at read
        · cases read
        · rename_i type _ _ inner
          cases read
          exact ⟨label, position, colon, tail, type, rfl, plain, ⟨_, inner⟩, rfl⟩
  · rintro ⟨label, position, colon, tail, type, rfl, plain, ⟨_, inner⟩, rfl⟩
    simp [readLabel, readMark, plain, inner]

end Signature
end SignatureSearch
