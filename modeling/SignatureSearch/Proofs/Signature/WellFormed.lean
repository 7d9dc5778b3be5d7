import SignatureSearch.Proofs.Signature.Exactness
import SignatureSearch.Proofs.Signature.Lexing
import SignatureSearch.Proofs.Signature.Trees

/-!
# Well-formed trees

The trees that signatures write: names that the scanner takes as names, constructors with the names
of constructors, tuples of two or more elements, functions with parameters whose results are not
functions, and no extension of a record without fields.  Every tree that the parser gives is one of
them, because every name in a scanned text is a dotted name.
-/

namespace SignatureSearch
namespace Signature

open Grammar

/-- An undotted identifier that does not begin with a capital letter. -/
def IsVariable (text : String) : Prop :=
  IsIdentifier text ∧ VariableName text

instance (text : String) : Decidable (IsVariable text) :=
  inferInstanceAs (Decidable (_ ∧ _))

/-- A text begins with a capital letter. -/
def StartsUpper (text : String) : Prop :=
  ∃ c ∈ text.toList.head?, c.isUpper = true

instance (text : String) : Decidable (StartsUpper text) :=
  decidable_of_iff (text.toList.head?.any Char.isUpper = true) (Option.any_eq_true _ _)

namespace QualifiedName

/-- The name of a constructor: an identifier that begins with a capital letter, or any identifier in
a module. -/
def Proper (head : QualifiedName) : Prop :=
  IsIdentifier head.name ∧ (head.home = "" ∧ StartsUpper head.name ∨ IsPath head.home)

end QualifiedName

namespace TypeExpr

/-- A tree that some signature writes. -/
inductive WellFormed : TypeExpr → Prop
  | function {params : List TypeExpr} {result : TypeExpr} (nonempty : params ≠ [])
      (all : ∀ param ∈ params, WellFormed param) (last : WellFormed result)
      (flat : result.isFunction = false) : WellFormed (.function params result)
  | var {name : String} (plain : IsVariable name) : WellFormed (.var name)
  | unit : WellFormed .unit
  | apply {head : QualifiedName} {args : List TypeExpr} (proper : head.Proper)
      (all : ∀ arg ∈ args, WellFormed arg) : WellFormed (.apply head args)
  | tuple {elements : List TypeExpr} (two : 2 ≤ elements.length)
      (all : ∀ element ∈ elements, WellFormed element) : WellFormed (.tuple elements)
  | record {fields : List (String × TypeExpr)} {extension : Option String}
      (labels : ∀ field ∈ fields, IsVariable field.1)
      (all : ∀ field ∈ fields, WellFormed field.2)
      (based : ∀ name ∈ extension, IsVariable name ∧ fields ≠ []) :
      WellFormed (.record fields extension)

end TypeExpr

open TypeExpr (WellFormed)

theorem IsIdentifier.startsUpper {text : String} (identifier : IsIdentifier text)
    (capital : ¬ VariableName text) : StartsUpper text := by
  have undotted := identifier.undotted
  obtain ⟨c, rest, shape, -⟩ := identifier
  cases upper : c.isUpper with
  | true => exact ⟨c, by simp [shape], upper⟩
  | false => exact absurd ⟨undotted, by simpa [shape] using upper⟩ capital

theorem IsVariable.not_startsUpper {text : String} (plain : IsVariable text) :
    ¬ StartsUpper text := by
  rintro ⟨c, head, upper⟩
  rw [plain.2.2 c head] at upper
  cases upper

/-! ## No foreign texts -/

namespace TypeExpr

/-- A type stands at every place of a well-formed tree. -/
theorem WellFormed.firstForeign?_eq_none {type : TypeExpr} (wellFormed : WellFormed type) :
    type.firstForeign? = none := by
  induction wellFormed with
  | function _ _ _ _ ihAll ihLast =>
      rw [firstForeign?, firstForeignOf?_eq_none_iff.mpr ihAll, ihLast]
      rfl
  | var _ => rfl
  | unit => rfl
  | apply _ _ ih => exact firstForeignOf?_eq_none_iff.mpr ih
  | tuple _ _ ih => exact firstForeignOf?_eq_none_iff.mpr ih
  | record _ _ _ ih => exact firstForeignField?_eq_none_iff.mpr ih

end TypeExpr

/-! ## What is derived is well-formed -/

/-- All names in a word are dotted names. -/
def ProperNames (word : List Lexeme) : Prop :=
  ∀ name, .name name ∈ word → IsPath name

theorem properNames_append_iff {front back : List Lexeme} :
    ProperNames (front ++ back) ↔ ProperNames front ∧ ProperNames back := by
  simp only [ProperNames, List.mem_append, or_imp, forall_and]

theorem ProperNames.tail {lexeme : Lexeme} {word : List Lexeme}
    (names : ProperNames (lexeme :: word)) : ProperNames word :=
  fun name member => names name (List.mem_cons_of_mem _ member)

theorem ProperNames.head {name : String} {word : List Lexeme}
    (names : ProperNames (.name name :: word)) : IsPath name :=
  names name List.mem_cons_self

theorem ProperNames.isVariable {name : String} {word : List Lexeme}
    (names : ProperNames (.name name :: word)) (plain : VariableName name) : IsVariable name :=
  ⟨names.head.isIdentifier plain.1, plain⟩

theorem proper_of_splits {text : String} {head : QualifiedName} (path : IsPath text)
    (notVariable : ¬ VariableName text) (splits : SplitsAtLastDot text head) : head.Proper := by
  obtain ⟨identifier, ⟨empty, rfl⟩ | home⟩ := path.splits splits
  · exact ⟨identifier, .inl ⟨empty, identifier.startsUpper notVariable⟩⟩
  · exact ⟨identifier, .inr home⟩

theorem wellFormed_absorbed {params : List TypeExpr} {last : TypeExpr} (nonempty : params ≠ [])
    (all : ∀ param ∈ params, WellFormed param) (whole : WellFormed last) :
    WellFormed (absorbed params last) := by
  cases whole with
  | function _ more result flat =>
      refine .function (by simp [nonempty]) (fun param member => ?_) result flat
      rcases List.mem_append.mp member with given | taken
      · exact all param given
      · exact more param taken
  | var plain => exact .function nonempty all (.var plain) rfl
  | unit => exact .function nonempty all .unit rfl
  | apply proper args => exact .function nonempty all (.apply proper args) rfl
  | tuple two elements => exact .function nonempty all (.tuple two elements) rfl
  | record labels fields based => exact .function nonempty all (.record labels fields based) rfl

theorem wellFormed_applied {head : QualifiedName} {args : List TypeExpr}
    (bare : WellFormed (.apply head [])) (notUnit : TypeExpr.apply head [] ≠ .unit)
    (all : ∀ arg ∈ args, WellFormed arg) : WellFormed (.apply head args) := by
  cases bare with
  | unit => exact absurd rfl notUnit
  | apply proper _ => exact .apply proper all

theorem wellFormed_record {fields : List (String × TypeExpr)} {extension : Option String}
    (proper : ∀ field ∈ fields, IsVariable field.1 ∧ WellFormed field.2)
    (based : ∀ name ∈ extension, IsVariable name ∧ fields ≠ []) :
    WellFormed (.record fields extension) :=
  .record (fun field member => (proper field member).1)
    (fun field member => (proper field member).2) based

namespace Grammar

theorem DerivesFields.ne_nil {word : List Lexeme} {fields : List (String × TypeExpr)}
    (derives : DerivesFields word fields) : fields ≠ [] := by
  cases derives
  simp

mutual

theorem DerivesType.wellFormed {word : List Lexeme} {type : TypeExpr} :
    DerivesType word type → ProperNames word → WellFormed type
  | .alone part => part.wellFormed
  | .function head tail => by
      intro names
      obtain ⟨first, others⟩ := properNames_append_iff.mp names
      have all := List.forall_mem_append.mp (tail.wellFormed others)
      exact wellFormed_absorbed (by simp)
        (List.forall_mem_cons.mpr ⟨head.wellFormed first, all.1⟩) (by simpa using all.2)

theorem DerivesArrows.wellFormed {word : List Lexeme} {parts : List TypeExpr} :
    DerivesArrows word parts → ProperNames word → ∀ part ∈ parts, WellFormed part
  | .nil => by simp
  | .cons head tail => by
      intro names
      obtain ⟨first, others⟩ := properNames_append_iff.mp names.tail
      exact List.forall_mem_cons.mpr ⟨head.wellFormed first, tail.wellFormed others⟩

theorem DerivesApplication.wellFormed {word : List Lexeme} {type : TypeExpr} :
    DerivesApplication word type → ProperNames word → WellFormed type
  | .bare atom => atom.wellFormed
  | .applied constructor notUnit arguments => by
      intro names
      obtain ⟨first, others⟩ := properNames_append_iff.mp names
      exact wellFormed_applied (constructor.wellFormed first) notUnit (arguments.wellFormed others)

theorem DerivesArguments.wellFormed {word : List Lexeme} {args : List TypeExpr} :
    DerivesArguments word args → ProperNames word → ∀ arg ∈ args, WellFormed arg
  | .nil => by simp
  | .cons head tail => by
      intro names
      obtain ⟨first, others⟩ := properNames_append_iff.mp names
      exact List.forall_mem_cons.mpr ⟨head.wellFormed first, tail.wellFormed others⟩

theorem DerivesAtom.wellFormed {word : List Lexeme} {type : TypeExpr} :
    DerivesAtom word type → ProperNames word → WellFormed type
  | .variable plain => fun names => .var (names.isVariable plain)
  | .constructor notVariable splits => fun names =>
      .apply (proper_of_splits names.head notVariable splits) (by simp)
  | .unit => fun _ => .unit
  | .group inner => fun names => inner.wellFormed (properNames_append_iff.mp names.tail).1
  | .tuple head tail => by
      intro names
      obtain ⟨first, others⟩ := properNames_append_iff.mp names.tail
      obtain ⟨rest, -⟩ := properNames_append_iff.mp others
      have all := List.forall_mem_cons.mpr ⟨head.wellFormed first, tail.wellFormed rest⟩
      exact .tuple (by simp) all
  | .emptyRecord => fun _ => wellFormed_record (by simp) (by simp)
  | .record inner => by
      intro names
      obtain ⟨fields, -⟩ := properNames_append_iff.mp names.tail
      exact wellFormed_record (inner.wellFormed fields) (by simp)
  | .extended plain inner => by
      intro names
      obtain ⟨fields, -⟩ := properNames_append_iff.mp names.tail.tail.tail
      refine wellFormed_record (inner.wellFormed fields) fun name member => ?_
      obtain rfl := Option.some.inj member
      exact ⟨names.tail.isVariable plain, inner.ne_nil⟩

theorem DerivesElements.wellFormed {word : List Lexeme} {elements : List TypeExpr} :
    DerivesElements word elements → ProperNames word → ∀ element ∈ elements, WellFormed element
  | .nil => by simp
  | .cons head tail => by
      intro names
      obtain ⟨first, others⟩ := properNames_append_iff.mp names.tail
      exact List.forall_mem_cons.mpr ⟨head.wellFormed first, tail.wellFormed others⟩

theorem DerivesFields.wellFormed {word : List Lexeme} {fields : List (String × TypeExpr)} :
    DerivesFields word fields → ProperNames word →
      ∀ field ∈ fields, IsVariable field.1 ∧ WellFormed field.2
  | .cons head tail => by
      intro names
      obtain ⟨first, others⟩ := properNames_append_iff.mp names
      exact List.forall_mem_cons.mpr ⟨head.wellFormed first, tail.wellFormed others⟩

theorem DerivesMoreFields.wellFormed {word : List Lexeme} {fields : List (String × TypeExpr)} :
    DerivesMoreFields word fields → ProperNames word →
      ∀ field ∈ fields, IsVariable field.1 ∧ WellFormed field.2
  | .nil => by simp
  | .cons head tail => by
      intro names
      obtain ⟨first, others⟩ := properNames_append_iff.mp names.tail
      exact List.forall_mem_cons.mpr ⟨head.wellFormed first, tail.wellFormed others⟩

theorem DerivesField.wellFormed {word : List Lexeme} {field : String × TypeExpr} :
    DerivesField word field → ProperNames word → IsVariable field.1 ∧ WellFormed field.2
  | .labelled plain inner => fun names =>
      ⟨names.isVariable plain, inner.wellFormed names.tail.tail⟩

end

end Grammar

/-- The parser gives well-formed trees. -/
theorem wellFormed_of_parse? {signature : String} {type : TypeExpr}
    (accepted : parse? signature = .ok type) : WellFormed type := by
  obtain ⟨tokens, scanned, derives⟩ := parse?_eq_ok_iff.mp accepted
  have spells : Spells signature.toList (tokens.map Token.lexeme) :=
    spells_iff_scan.mpr ⟨tokens, scanned, rfl⟩
  exact derives.wellFormed spells.isPath

/-- A text always stands for a type. -/
theorem firstForeign?_parse (text : String) : (parse text).firstForeign? = none := by
  cases read : parse? text with
  | ok type =>
      rw [parse_of_accepted read]
      exact (wellFormed_of_parse? read).firstForeign?_eq_none
  | error error =>
      rw [parse_of_refused read]
      rfl

/-- A text that spells a derived word is parsed to the tree of the word. -/
theorem parse?_of_spells {signature : String} {word : List Lexeme} {type : TypeExpr}
    (spells : Spells signature.toList word) (derives : DerivesType word type) :
    parse? signature = .ok type := by
  obtain ⟨tokens, scanned, rfl⟩ := spells_iff_scan.mp spells
  exact parse?_eq_ok_iff.mpr ⟨tokens, scanned, derives⟩

/-- Of a text that spells a word, the parser gives what the word derives. -/
theorem parse?_iff_of_spells {signature : String} {word : List Lexeme} {type : TypeExpr}
    (spells : Spells signature.toList word) :
    parse? signature = .ok type ↔ DerivesType word type := by
  refine ⟨fun accepted => ?_, parse?_of_spells spells⟩
  obtain ⟨tokens, scanned, derives⟩ := parse?_eq_ok_iff.mp accepted
  rw [spells.unique (spells_iff_scan.mpr ⟨tokens, scanned, rfl⟩)]
  exact derives

/-- A signature that is accepted is not blank. -/
theorem not_blank_of_accepted {signature : String} {type : TypeExpr}
    (accepted : parse? signature = .ok type) : Text.isAllBlank signature.toList = false := by
  obtain ⟨tokens, scanned, derives⟩ := parse?_eq_ok_iff.mp accepted
  have spells := spells_iff_scan.mpr ⟨tokens, scanned, rfl⟩
  cases blank : Text.isAllBlank signature.toList with
  | false => rfl
  | true =>
      obtain ⟨lexeme, more, same, -⟩ := derives.starts
      rw [spells.eq_nil_of_blank blank] at same
      cases same

end Signature
end SignatureSearch
