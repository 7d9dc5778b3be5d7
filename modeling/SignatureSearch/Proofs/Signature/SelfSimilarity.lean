import SignatureSearch.Proofs.Signature.Trees
import SignatureSearch.Signature.Scoring

/-!
# Similarity of a type to itself

No type is more similar to a type than the type itself.  How similar it is to itself comes from the
variables and constructors that records do not hide, so a type without any is not similar even to
itself.
-/

namespace SignatureSearch
namespace Signature
namespace TypeExpr

/-- A type stands in another, in no record of it. -/
inductive OutsideRecords (node : TypeExpr) : TypeExpr → Prop
  | here : OutsideRecords node node
  | param {params : List TypeExpr} {result param : TypeExpr} (member : param ∈ params)
      (inside : OutsideRecords node param) : OutsideRecords node (.function params result)
  | result {params : List TypeExpr} {result : TypeExpr} (inside : OutsideRecords node result) :
      OutsideRecords node (.function params result)
  | arg {head : QualifiedName} {args : List TypeExpr} {arg : TypeExpr} (member : arg ∈ args)
      (inside : OutsideRecords node arg) : OutsideRecords node (.apply head args)
  | element {elements : List TypeExpr} {element : TypeExpr} (member : element ∈ elements)
      (inside : OutsideRecords node element) : OutsideRecords node (.tuple elements)

/-- A type is a variable or a constructor with its arguments. -/
def IsNamed : TypeExpr → Prop
  | var _ | apply _ _ => True
  | _ => False

/-- A variable or a constructor stands in a type, in no record of it. -/
def Exposes (type : TypeExpr) : Prop :=
  ∃ node, OutsideRecords node type ∧ node.IsNamed

theorem exposes_var (name : String) : Exposes (.var name) :=
  ⟨_, .here, trivial⟩

theorem exposes_apply (head : QualifiedName) (args : List TypeExpr) : Exposes (.apply head args) :=
  ⟨_, .here, trivial⟩

theorem exposes_function_iff {params : List TypeExpr} {result : TypeExpr} :
    Exposes (.function params result) ↔ (∃ param ∈ params, Exposes param) ∨ Exposes result := by
  constructor
  · rintro ⟨node, inside, named⟩
    cases inside with
    | here => cases named
    | param member inside => exact .inl ⟨_, member, node, inside, named⟩
    | result inside => exact .inr ⟨node, inside, named⟩
  · rintro (⟨param, member, node, inside, named⟩ | ⟨node, inside, named⟩)
    · exact ⟨node, .param member inside, named⟩
    · exact ⟨node, .result inside, named⟩

theorem exposes_tuple_iff {elements : List TypeExpr} :
    Exposes (.tuple elements) ↔ ∃ element ∈ elements, Exposes element := by
  constructor
  · rintro ⟨node, inside, named⟩
    cases inside with
    | here => cases named
    | element member inside => exact ⟨_, member, node, inside, named⟩
  · rintro ⟨element, member, node, inside, named⟩
    exact ⟨node, .element member inside, named⟩

theorem not_exposes_record {fields : List (String × TypeExpr)} {extension : Option String} :
    ¬ Exposes (.record fields extension) := by
  rintro ⟨node, inside, named⟩
  cases inside
  cases named

theorem not_exposes_foreign {text : String} : ¬ Exposes (.foreign text) := by
  rintro ⟨node, inside, named⟩
  cases inside
  cases named

/-! ## Renamed types -/

theorem exists_exposes_renameAllWith_iff {f : String → String} {types : List TypeExpr}
    (all : ∀ type ∈ types, (Exposes (type.renameWith f) ↔ Exposes type)) :
    (∃ type ∈ renameAllWith f types, Exposes type) ↔ ∃ type ∈ types, Exposes type := by
  rw [renameAllWith_eq_map]
  constructor
  · rintro ⟨_, member, exposes⟩
    obtain ⟨type, inside, rfl⟩ := List.mem_map.mp member
    exact ⟨type, inside, (all type inside).mp exposes⟩
  · rintro ⟨type, member, exposes⟩
    exact ⟨_, List.mem_map_of_mem member, (all type member).mpr exposes⟩

/-- Renaming neither hides nor uncovers anything. -/
theorem exposes_renameWith_iff (f : String → String) (type : TypeExpr) :
    Exposes (type.renameWith f) ↔ Exposes type := by
  induction type with
  | function params result front last =>
      rw [renameWith, exposes_function_iff, exposes_function_iff,
        exists_exposes_renameAllWith_iff front, last]
  | var name => exact iff_of_true (exposes_var (f name)) (exposes_var name)
  | apply head args _ => exact iff_of_true (exposes_apply head _) (exposes_apply head args)
  | tuple elements all =>
      rw [renameWith, exposes_tuple_iff, exposes_tuple_iff, exists_exposes_renameAllWith_iff all]
  | record fields extension _ => exact iff_of_false not_exposes_record not_exposes_record
  | foreign text => rfl

theorem exposes_canonical_iff {type : TypeExpr} : Exposes type.canonical ↔ Exposes type :=
  exposes_renameWith_iff _ type

/-! ## The bound -/

theorem compareNames_self (name : String) : compareNames name name = 10 :=
  if_pos rfl

theorem compareNames_le (name other : String) :
    compareNames name other ≤ compareNames name name := by
  rw [compareNames_self, compareNames]
  split
  · exact Nat.le_refl 10
  · split <;> decide

theorem similaritySum_le_self {types : List TypeExpr}
    (all : ∀ type ∈ types, ∀ other, type.similarity other ≤ type.similarity type)
    (others : List TypeExpr) : similaritySum types others ≤ similaritySum types types := by
  induction types generalizing others with
  | nil => exact Nat.zero_le _
  | cons type types ih =>
      cases others with
      | nil => exact Nat.zero_le _
      | cons other others =>
          have ⟨first, rest⟩ := List.forall_mem_cons.mp all
          rw [similaritySum, similaritySum]
          exact Nat.add_le_add (first other) (ih rest others)

/-- No type is more similar to a type than the type itself. -/
theorem similarity_le_self (type other : TypeExpr) :
    type.similarity other ≤ type.similarity type := by
  induction type generalizing other with
  | function params result front last =>
      cases other with
      | function params' result' =>
          rw [similarity, similarity, if_pos rfl]
          split
          · exact Nat.add_le_add (similaritySum_le_self front params') (last result')
          · exact Nat.zero_le _
      | _ => exact Nat.zero_le _
  | var name =>
      cases other with
      | var name' => exact compareNames_le name name'
      | _ => exact Nat.zero_le _
  | apply head args all =>
      cases other with
      | apply head' args' =>
          rw [similarity, similarity, if_pos rfl]
          split
          · exact Nat.add_le_add (compareNames_le head.name head'.name)
              (similaritySum_le_self all args')
          · exact Nat.zero_le _
      | _ => exact Nat.zero_le _
  | tuple elements all =>
      cases other with
      | tuple elements' => exact similaritySum_le_self all elements'
      | _ => exact Nat.zero_le _
  | record fields extension _ => exact Nat.zero_le _
  | foreign text => exact Nat.zero_le _

/-! ## Types that are similar to themselves -/

theorem similaritySum_self_pos_iff {types : List TypeExpr}
    (all : ∀ type ∈ types, (0 < type.similarity type ↔ Exposes type)) :
    0 < similaritySum types types ↔ ∃ type ∈ types, Exposes type := by
  induction types with
  | nil => simp [similaritySum]
  | cons type types ih =>
      have ⟨first, rest⟩ := List.forall_mem_cons.mp all
      rw [similaritySum, List.exists_mem_cons_iff, ← first, ← ih rest]
      omega

/-- A type is similar to itself exactly when it exposes a variable or a constructor. -/
theorem similarity_self_pos_iff (type : TypeExpr) : 0 < type.similarity type ↔ Exposes type := by
  induction type with
  | function params result front last =>
      rw [similarity, if_pos rfl, exposes_function_iff, ← similaritySum_self_pos_iff front, ← last]
      omega
  | var name =>
      rw [similarity, compareNames_self]
      exact iff_of_true (by decide) (exposes_var name)
  | apply head args _ =>
      rw [similarity, if_pos rfl, compareNames_self]
      exact iff_of_true (by omega) (exposes_apply head args)
  | tuple elements all => rw [similarity, exposes_tuple_iff, similaritySum_self_pos_iff all]
  | record fields extension _ => exact iff_of_false (Nat.lt_irrefl 0) not_exposes_record
  | foreign text => exact iff_of_false (Nat.lt_irrefl 0) not_exposes_foreign

end TypeExpr
end Signature
end SignatureSearch
