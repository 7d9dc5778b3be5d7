import SignatureSearch.Signature.Parser

/-!
# The grammar of signatures

What it means for a sequence of lexemes to write a type, without reference to how it is read.  A
type is one or more applications between arrows; an application is an atom, or a constructor with
its arguments; an atom is a name, a group, a tuple, the unit type or a record.  The rules are those
of the reader, except that an arrow takes in the parameters of a last part at one level only, which
is enough because no derived function has a function as its result.
-/

namespace SignatureSearch
namespace Signature

/-- An undotted name that does not begin with a capital letter. -/
def VariableName (text : String) : Prop :=
  '.' ∉ text.toList ∧ ∀ c ∈ text.toList.head?, c.isUpper = false

/-- A text is the name of a constructor: all that stands before its last dot is the module, and
without a dot there is none. -/
def SplitsAtLastDot (text : String) (head : QualifiedName) : Prop :=
  '.' ∉ head.name.toList ∧
    (head.home = "" ∧ text = head.name ∨ text = head.home ++ "." ++ head.name)

theorem isVariableName_iff {text : String} : isVariableName text = true ↔ VariableName text := by
  unfold isVariableName VariableName
  split
  · rename_i empty
    simp [empty]
  · rename_i c rest shape
    simp [shape, and_comm]

instance (text : String) : Decidable (VariableName text) :=
  decidable_of_iff _ isVariableName_iff

theorem splitsAtLastDot_exists (text : String) : ∃ head, SplitsAtLastDot text head := by
  by_cases dotted : '.' ∈ text.toList.reverse
  · obtain ⟨back, front, shape, undotted⟩ := List.eq_append_cons_of_mem dotted
    refine ⟨⟨String.ofList front.reverse, String.ofList back.reverse⟩, by simpa using undotted,
      .inr ?_⟩
    rw [← String.toList_inj, ← List.reverse_inj, shape]
    simp
  · exact ⟨⟨"", text⟩, by simpa using dotted, .inl ⟨rfl, rfl⟩⟩

/-- A dotted name is read at its last dot. -/
theorem ofDotted_of_splits {text : String} {head : QualifiedName}
    (splits : SplitsAtLastDot text head) : QualifiedName.ofDotted text = head := by
  obtain ⟨home, name⟩ := head
  obtain ⟨undotted, shape⟩ := splits
  have plain : ∀ c ∈ name.toList.reverse, decide (c ≠ '.') = true := by
    intro c member
    rw [decide_eq_true_eq]
    rintro rfl
    exact undotted (List.mem_reverse.mp member)
  simp only [QualifiedName.ofDotted]
  obtain ⟨rfl, rfl⟩ | rfl := shape
  · rw [← List.append_nil text.toList.reverse, List.takeWhile_append_of_pos plain,
      List.dropWhile_append_of_pos plain]
    simp
  · simp only [String.toList_append, List.reverse_append, List.append_assoc]
    rw [List.takeWhile_append_of_pos plain, List.dropWhile_append_of_pos plain]
    simp

theorem ofDotted_eq_iff {text : String} {head : QualifiedName} :
    QualifiedName.ofDotted text = head ↔ SplitsAtLastDot text head := by
  refine ⟨?_, ofDotted_of_splits⟩
  rintro rfl
  obtain ⟨head, splits⟩ := splitsAtLastDot_exists text
  rw [ofDotted_of_splits splits]
  exact splits

namespace Grammar

/-- The function from parameters to a last part; a last part that is a function itself gives its
parameters and its result. -/
def absorbed (params : List TypeExpr) : TypeExpr → TypeExpr
  | .function more result => .function (params ++ more) result
  | last => .function params last

mutual

/-- Lexemes write a type: applications between arrows. -/
inductive DerivesType : List Lexeme → TypeExpr → Prop
  /-- One application is the type itself. -/
  | alone {word : List Lexeme} {type : TypeExpr} (part : DerivesApplication word type) :
      DerivesType word type
  /-- More than one make a function to the last of them. -/
  | function {front back : List Lexeme} {first last : TypeExpr} {middle : List TypeExpr}
      (head : DerivesApplication front first) (tail : DerivesArrows back (middle ++ [last])) :
      DerivesType (front ++ back) (absorbed (first :: middle) last)

/-- Lexemes write applications, each after an arrow. -/
inductive DerivesArrows : List Lexeme → List TypeExpr → Prop
  | nil : DerivesArrows [] []
  | cons {front back : List Lexeme} {part : TypeExpr} {parts : List TypeExpr}
      (head : DerivesApplication front part) (tail : DerivesArrows back parts) :
      DerivesArrows (.arrow :: (front ++ back)) (part :: parts)

/-- Lexemes write an atom or a constructor with arguments. -/
inductive DerivesApplication : List Lexeme → TypeExpr → Prop
  /-- An atom without arguments. -/
  | bare {word : List Lexeme} {type : TypeExpr} (atom : DerivesAtom word type) :
      DerivesApplication word type
  /-- Arguments after a constructor that has none yet and is not the unit type. -/
  | applied {front back : List Lexeme} {head : QualifiedName} {arg : TypeExpr}
      {args : List TypeExpr} (constructor : DerivesAtom front (.apply head []))
      (notUnit : TypeExpr.apply head [] ≠ .unit) (arguments : DerivesArguments back (arg :: args)) :
      DerivesApplication (front ++ back) (.apply head (arg :: args))

/-- Lexemes write atoms one after another. -/
inductive DerivesArguments : List Lexeme → List TypeExpr → Prop
  | nil : DerivesArguments [] []
  | cons {front back : List Lexeme} {arg : TypeExpr} {args : List TypeExpr}
      (head : DerivesAtom front arg) (tail : DerivesArguments back args) :
      DerivesArguments (front ++ back) (arg :: args)

/-- Lexemes write an atom. -/
inductive DerivesAtom : List Lexeme → TypeExpr → Prop
  /-- A variable name. -/
  | variable {text : String} (plain : VariableName text) : DerivesAtom [.name text] (.var text)
  /-- Any other name is that of a constructor. -/
  | constructor {text : String} {head : QualifiedName} (notVariable : ¬ VariableName text)
      (splits : SplitsAtLastDot text head) : DerivesAtom [.name text] (.apply head [])
  /-- Parentheses around nothing are the unit type. -/
  | unit : DerivesAtom [.openParen, .closeParen] .unit
  /-- Parentheses around one type only group it. -/
  | group {word : List Lexeme} {type : TypeExpr} (inner : DerivesType word type) :
      DerivesAtom (.openParen :: (word ++ [.closeParen])) type
  /-- Parentheses around more types make a tuple. -/
  | tuple {front back : List Lexeme} {first second : TypeExpr} {more : List TypeExpr}
      (head : DerivesType front first) (tail : DerivesElements back (second :: more)) :
      DerivesAtom (.openParen :: (front ++ (back ++ [.closeParen])))
        (.tuple (first :: second :: more))
  /-- Braces around nothing are the record without fields. -/
  | emptyRecord : DerivesAtom [.openBrace, .closeBrace] (.record [] none)
  /-- Braces around fields make a record. -/
  | record {word : List Lexeme} {fields : List (String × TypeExpr)}
      (inner : DerivesFields word fields) :
      DerivesAtom (.openBrace :: (word ++ [.closeBrace])) (.record fields none)
  /-- A variable and a bar before the fields make a record that extends the variable. -/
  | extended {extension : String} {word : List Lexeme} {fields : List (String × TypeExpr)}
      (plain : VariableName extension) (inner : DerivesFields word fields) :
      DerivesAtom (.openBrace :: .name extension :: .bar :: (word ++ [.closeBrace]))
        (.record fields (some extension))

/-- Lexemes write types, each after a comma. -/
inductive DerivesElements : List Lexeme → List TypeExpr → Prop
  | nil : DerivesElements [] []
  | cons {front back : List Lexeme} {element : TypeExpr} {elements : List TypeExpr}
      (head : DerivesType front element) (tail : DerivesElements back elements) :
      DerivesElements (.comma :: (front ++ back)) (element :: elements)

/-- Lexemes write one or more fields with commas between them. -/
inductive DerivesFields : List Lexeme → List (String × TypeExpr) → Prop
  | cons {front back : List Lexeme} {field : String × TypeExpr}
      {fields : List (String × TypeExpr)} (head : DerivesField front field)
      (tail : DerivesMoreFields back fields) : DerivesFields (front ++ back) (field :: fields)

/-- Lexemes write fields, each after a comma. -/
inductive DerivesMoreFields : List Lexeme → List (String × TypeExpr) → Prop
  | nil : DerivesMoreFields [] []
  | cons {front back : List Lexeme} {field : String × TypeExpr}
      {fields : List (String × TypeExpr)} (head : DerivesField front field)
      (tail : DerivesMoreFields back fields) :
      DerivesMoreFields (.comma :: (front ++ back)) (field :: fields)

/-- Lexemes write a label with its type. -/
inductive DerivesField : List Lexeme → String × TypeExpr → Prop
  | labelled {label : String} {word : List Lexeme} {type : TypeExpr} (plain : VariableName label)
      (inner : DerivesType word type) : DerivesField (.name label :: .colon :: word) (label, type)

end

end Grammar
end Signature
end SignatureSearch
