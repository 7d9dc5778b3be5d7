import SignatureSearch.Docs.Comment
import SignatureSearch.Proofs.Text.Splitting

/-!
# Names in a directive

The names that a directive can list and the way they are written: words as they are, operators in
parentheses.  A written name holds neither a blank nor a comma and reads back as the name.  What
follows it up to the next comma can be taken for a part of it only if it is an operator and another
closing parenthesis ends what follows, with no letter or digit of ASCII before.
-/

namespace SignatureSearch
namespace Docs

/-! ## Identifiers -/

theorem plain_of_isIdentifier {text : List Char} (spelled : isIdentifier text = true) :
    ∀ c ∈ text, Text.isBlank c = false ∧ c ≠ ',' ∧ c ≠ '(' := by
  intro c held
  rw [isIdentifier, Bool.and_eq_true, List.all_eq_true] at spelled
  have kind := spelled.2 c held
  simp only [Bool.or_eq_true, beq_iff_eq] at kind
  rcases kind with (alphanumeric | rfl) | rfl
  · refine ⟨Text.isBlank_eq_false_of_isAlphanum alphanumeric, ?_, ?_⟩ <;> rintro rfl
    · exact absurd alphanumeric (by decide)
    · exact absurd alphanumeric (by decide)
  · decide
  · decide

/-! ## Names -/

/-- Whether a text is an operator: no letter or digit of ASCII, no blank, comma or parenthesis. -/
def isSymbol (text : List Char) : Bool :=
  !text.isEmpty && text.all fun c =>
    !c.isAlphanum && !Text.isBlank c && c != ',' && c != '(' && c != ')'

theorem plain_of_isSymbol {text : List Char} (spelled : isSymbol text = true) :
    ∀ c ∈ text, c.isAlphanum = false ∧ Text.isBlank c = false ∧ c ≠ ',' := by
  intro c held
  rw [isSymbol, Bool.and_eq_true, List.all_eq_true] at spelled
  have kind := spelled.2 c held
  simp only [Bool.and_eq_true, Bool.not_eq_true', bne_iff_ne] at kind
  exact ⟨kind.1.1.1.1, kind.1.1.1.2, kind.1.1.2⟩

theorem any_isAlphanum_of_isSymbol {text : List Char} (spelled : isSymbol text = true) :
    text.any Char.isAlphanum = false :=
  List.any_eq_false.mpr fun c held => by simp [(plain_of_isSymbol spelled c held).1]

theorem ne_nil_of_isSymbol {text : List Char} (spelled : isSymbol text = true) : text ≠ [] := by
  rintro rfl
  exact absurd spelled (by decide)

/-- A name that a directive can list. -/
inductive Name where
  /-- A name of letters, digits, underscores and primes. -/
  | word (text : List Char) (spelled : isIdentifier text = true)
  /-- An operator. -/
  | operator (text : List Char) (spelled : isSymbol text = true)

namespace Name

/-- The text of a name, by which its entry is known. -/
def text : Name → List Char
  | word text _ => text
  | operator text _ => text

/-- A name as a directive lists it. -/
def listed : Name → List Char
  | word text _ => text
  | operator text _ => '(' :: (text ++ [')'])

/-- Whether a name is listed in parentheses. -/
def parenthesized : Name → Bool
  | word .. => false
  | operator .. => true

/-- The name is an operator, and a closing parenthesis ends the text after it, in which no letter or
digit of ASCII stands: the operator is read to that parenthesis. -/
def RunsOn (name : Name) (after : List Char) : Prop :=
  name.parenthesized = true ∧ after.getLast? = some ')' ∧ after.any Char.isAlphanum = false

instance (name : Name) (after : List Char) : Decidable (name.RunsOn after) :=
  inferInstanceAs (Decidable (_ ∧ _ ∧ _))

/-- The piece that a listed name is. -/
def mention (name : Name) : Piece :=
  .mention (String.ofList name.text)

theorem plain_listed (name : Name) : ∀ c ∈ name.listed, Text.isBlank c = false ∧ c ≠ ',' := by
  intro c held
  cases name with
  | word text spelled =>
      have plain := plain_of_isIdentifier spelled c held
      exact ⟨plain.1, plain.2.1⟩
  | operator text spelled =>
      rw [listed, List.mem_cons, List.mem_append, List.mem_singleton] at held
      rcases held with rfl | held | rfl
      · decide
      · exact (plain_of_isSymbol spelled c held).2
      · decide

theorem listed_ne_nil (name : Name) : name.listed ≠ [] := by
  cases name with
  | word text spelled =>
      rintro rfl
      exact absurd spelled (by decide)
  | operator text spelled => exact List.cons_ne_nil _ _

theorem comma_not_mem_listed (name : Name) : ',' ∉ name.listed :=
  fun held => (name.plain_listed ',' held).2 rfl

theorem newline_not_mem_listed (name : Name) : '\n' ∉ name.listed :=
  fun held => absurd (name.plain_listed '\n' held).1 (by decide)

theorem trimLeft_listed_append (name : Name) (rest : List Char) :
    Text.trimLeft (name.listed ++ rest) = name.listed ++ rest := by
  obtain ⟨c, tail, shape⟩ := List.exists_cons_of_ne_nil name.listed_ne_nil
  have plain := name.plain_listed c (shape ▸ List.mem_cons_self)
  rw [shape, List.cons_append, Text.trimLeft_of_head_not_blank plain.1]

theorem listed_eq_concat (name : Name) : ∃ init last,
    name.listed = init ++ [last] ∧ Text.isBlank last = false ∧ last ≠ ',' := by
  have plain := name.plain_listed _ (List.getLast_mem name.listed_ne_nil)
  exact ⟨_, _, (List.dropLast_concat_getLast name.listed_ne_nil).symm, plain⟩

theorem trimRight_append_listed (name : Name) (front : List Char) :
    Text.trimRight (front ++ name.listed) = front ++ name.listed := by
  obtain ⟨init, last, shape, word, -⟩ := name.listed_eq_concat
  rw [shape, ← List.append_assoc, Text.trimRight_concat_of_not_blank word]

/-- Only blanks after the name are taken off. -/
theorem trim_listed_append (name : Name) (rest : List Char) :
    Text.trim (name.listed ++ rest) = name.listed ++ Text.trimRight rest := by
  have kept : Text.trimRight name.listed = name.listed := name.trimRight_append_listed []
  rw [Text.trim, trimLeft_listed_append, Text.trimRight_append kept]

/-! ## Names read back -/

/-- What is read between an opening parenthesis and the last character of a text. -/
theorem entryName?_enclosed (inner : List Char) (last : Char) :
    entryName? ('(' :: (inner ++ [last])) =
      if inner ≠ [] ∧ last = ')' ∧ inner.any Char.isAlphanum = false then some inner else none := by
  have no_word : isIdentifier ('(' :: (inner ++ [last])) = false := by
    rw [isIdentifier, List.all_cons]
    simp only [show ('('.isAlphanum || '(' == '_' || '(' == '\'') = false by decide,
      Bool.false_and, Bool.and_false]
  have ends : ('(' :: (inner ++ [last])).getLast? = some last := by
    rw [← List.cons_append, List.getLast?_concat]
  have inside : (('(' :: (inner ++ [last])).drop 1).dropLast = inner := by
    rw [List.drop_succ_cons, List.drop_zero, List.dropLast_concat]
  have operator : isOperator ('(' :: (inner ++ [last])) = true ↔
      inner ≠ [] ∧ last = ')' ∧ inner.any Char.isAlphanum = false := by
    rw [isOperator, ends, inside]
    simp [List.length_pos_iff, and_assoc]
  rw [entryName?, no_word, inside]
  simp only [Bool.false_eq_true, if_false, operator]

theorem entryName?_listed (name : Name) : entryName? name.listed = some name.text := by
  cases name with
  | word text spelled => rw [listed, entryName?, if_pos spelled, Name.text]
  | operator text spelled =>
      rw [listed, entryName?_enclosed, Name.text,
        if_pos ⟨ne_nil_of_isSymbol spelled, rfl, any_isAlphanum_of_isSymbol spelled⟩]

/-- A name and a text after it that begins with the end of a line read as no name, or as an operator
that runs on to the end of the text. -/
theorem entryName?_listed_append (name : Name) {after : List Char}
    (begins : after.head? = some '\n') :
    entryName? (name.listed ++ after) =
      if name.RunsOn after then some (name.text ++ ')' :: after.dropLast) else none := by
  have held : '\n' ∈ after := List.mem_of_mem_head? begins
  cases name with
  | word text spelled =>
      have no_word : isIdentifier (text ++ after) = false := by
        rw [isIdentifier, Bool.and_eq_false_iff]
        exact .inr (List.all_eq_false.mpr
          ⟨'\n', List.mem_append_right text held, by decide⟩)
      have no_operator : isOperator (text ++ after) = false := by
        obtain ⟨c, tail, rfl⟩ := List.exists_cons_of_ne_nil (listed_ne_nil (.word text spelled))
        have plain := plain_of_isIdentifier spelled c List.mem_cons_self
        simp [isOperator, plain.2.2]
      simp [listed, parenthesized, RunsOn, entryName?, no_word, no_operator]
  | operator text spelled =>
      have plain := any_isAlphanum_of_isSymbol spelled
      obtain ⟨init, last, shape⟩ :=
        (List.eq_nil_or_concat after).resolve_left (List.ne_nil_of_mem held)
      rw [List.concat_eq_append] at shape
      subst shape
      have whole : '(' :: (text ++ [')']) ++ (init ++ [last]) =
          '(' :: ((text ++ ')' :: init) ++ [last]) := by simp
      -- The closing parenthesis of the operator is no letter, so only the text after it matters.
      have same : (text ++ ')' :: init ≠ [] ∧ last = ')' ∧
            (text ++ ')' :: init).any Char.isAlphanum = false) ↔
          (operator text spelled).RunsOn (init ++ [last]) := by
        simp only [RunsOn, parenthesized, List.getLast?_concat, List.any_append, List.any_cons,
          plain, List.any_nil, Bool.or_false, show ')'.isAlphanum = false by decide,
          Bool.false_or, Option.some.injEq, true_and]
        constructor
        · rintro ⟨-, rfl, rest⟩
          exact ⟨rfl, by rw [rest]; decide⟩
        · rintro ⟨rfl, rest⟩
          exact ⟨by simp, rfl, (Bool.or_eq_false_iff.mp rest).1⟩
      simp only [listed, Name.text, whole, entryName?_enclosed, List.dropLast_concat, same]

end Name
end Docs
end SignatureSearch
