import Mathlib.Data.List.Basic
import SignatureSearch.Signature.Canonical

/-!
# Induction over types

What holds of a type when it holds of its parts holds of every type; the parts are the members of
its lists.  The functions that go through such lists are the ones of the library.
-/

namespace SignatureSearch
namespace Signature
namespace TypeExpr

/-- A property that every type has when its parts have it holds of all types. -/
@[elab_as_elim, induction_eliminator]
theorem tree_induction {motive : TypeExpr → Prop}
    (function : ∀ params result, (∀ param ∈ params, motive param) → motive result →
      motive (.function params result))
    (var : ∀ name, motive (.var name))
    (apply : ∀ head args, (∀ arg ∈ args, motive arg) → motive (.apply head args))
    (tuple : ∀ elements, (∀ element ∈ elements, motive element) → motive (.tuple elements))
    (record : ∀ fields extension, (∀ field ∈ fields, motive field.2) →
      motive (.record fields extension))
    (foreign : ∀ text, motive (.foreign text)) (type : TypeExpr) : motive type :=
  @TypeExpr.rec motive (fun types => ∀ type ∈ types, motive type)
    (fun fields => ∀ field ∈ fields, motive field.2) (fun field => motive field.2)
    function var apply tuple record foreign
    (by simp) (fun _ _ head tail => List.forall_mem_cons.mpr ⟨head, tail⟩)
    (by simp) (fun _ _ head tail => List.forall_mem_cons.mpr ⟨head, tail⟩)
    (fun _ _ inner => inner) type

/-! ## Functions on lists of parts -/

theorem renameAllWith_eq_map {f : String → String} (types : List TypeExpr) :
    renameAllWith f types = types.map (renameWith f) := by
  induction types with
  | nil => rfl
  | cons type types ih => rw [renameAllWith, ih, List.map_cons]

theorem renameFieldsWith_eq_map {f : String → String} (fields : List (String × TypeExpr)) :
    renameFieldsWith f fields = fields.map fun field => (field.1, field.2.renameWith f) := by
  induction fields with
  | nil => rfl
  | cons field fields ih => rw [renameFieldsWith, ih, List.map_cons]

theorem freeVariablesOf_eq_flatMap (types : List TypeExpr) :
    freeVariablesOf types = types.flatMap freeVariables := by
  induction types with
  | nil => rfl
  | cons type types ih => rw [freeVariablesOf, ih, List.flatMap_cons]

theorem freeVariablesOfFields_eq_flatMap (fields : List (String × TypeExpr)) :
    freeVariablesOfFields fields = fields.flatMap fun field => field.2.freeVariables := by
  induction fields with
  | nil => rfl
  | cons field fields ih => rw [freeVariablesOfFields, ih, List.flatMap_cons]

theorem firstForeignOf?_eq_none_iff {types : List TypeExpr} :
    firstForeignOf? types = none ↔ ∀ type ∈ types, type.firstForeign? = none := by
  induction types with
  | nil => simp [firstForeignOf?]
  | cons type types ih => simp [firstForeignOf?, ih]

theorem firstForeignField?_eq_none_iff {fields : List (String × TypeExpr)} :
    firstForeignField? fields = none ↔ ∀ field ∈ fields, field.2.firstForeign? = none := by
  induction fields with
  | nil => simp [firstForeignField?]
  | cons field fields ih => simp [firstForeignField?, ih]

/-! ## Renamed types -/

theorem freeVariablesOf_renameAllWith {f : String → String} {types : List TypeExpr}
    (all : ∀ type ∈ types, (type.renameWith f).freeVariables = type.freeVariables.map f) :
    freeVariablesOf (renameAllWith f types) = (freeVariablesOf types).map f := by
  rw [renameAllWith_eq_map, freeVariablesOf_eq_flatMap, freeVariablesOf_eq_flatMap,
    List.flatMap_map, List.map_flatMap, List.flatMap_congr all]

/-- The variables of a renamed type are the renamed variables. -/
theorem freeVariables_renameWith (f : String → String) (type : TypeExpr) :
    (type.renameWith f).freeVariables = type.freeVariables.map f := by
  induction type with
  | function params result front last =>
      rw [renameWith, freeVariables, freeVariables, List.map_append, last,
        freeVariablesOf_renameAllWith front]
  | var name => rfl
  | apply head args all => exact freeVariablesOf_renameAllWith all
  | tuple elements all => exact freeVariablesOf_renameAllWith all
  | record fields extension all =>
      rw [renameWith, freeVariables, freeVariables, renameFieldsWith_eq_map,
        freeVariablesOfFields_eq_flatMap, freeVariablesOfFields_eq_flatMap, List.flatMap_map,
        List.map_flatMap, List.flatMap_congr all]
  | foreign text => rfl

theorem renameWith_renameWith (f g : String → String) (type : TypeExpr) :
    (type.renameWith f).renameWith g = type.renameWith (g ∘ f) := by
  induction type with
  | function params result front last =>
      simp only [renameWith, renameAllWith_eq_map, List.map_map, last]
      exact congrArg (function · _) (List.map_congr_left front)
  | var name => rfl
  | apply head args all =>
      simp only [renameWith, renameAllWith_eq_map, List.map_map]
      exact congrArg (TypeExpr.apply head) (List.map_congr_left all)
  | tuple elements all =>
      simp only [renameWith, renameAllWith_eq_map, List.map_map]
      exact congrArg tuple (List.map_congr_left all)
  | record fields extension all =>
      simp only [renameWith, renameFieldsWith_eq_map, List.map_map]
      have same := List.map_congr_left fun field member =>
        congrArg (Prod.mk field.1) (all field member)
      exact congrArg (record · extension) same
  | foreign text => rfl

theorem renameAllWith_congr {f g : String → String} {types : List TypeExpr}
    (all : ∀ type ∈ types, (∀ name ∈ type.freeVariables, f name = g name) →
      type.renameWith f = type.renameWith g)
    (agree : ∀ name ∈ freeVariablesOf types, f name = g name) :
    renameAllWith f types = renameAllWith g types := by
  rw [renameAllWith_eq_map, renameAllWith_eq_map]
  refine List.map_congr_left fun type member => all type member fun name inside => agree name ?_
  rw [freeVariablesOf_eq_flatMap]
  exact List.mem_flatMap_of_mem member inside

/-- Only the new names of the variables of a type matter for the renamed type. -/
theorem renameWith_congr {f g : String → String} {type : TypeExpr}
    (agree : ∀ name ∈ type.freeVariables, f name = g name) :
    type.renameWith f = type.renameWith g := by
  induction type with
  | function params result front last =>
      have ⟨inside, outside⟩ := List.forall_mem_append.mp agree
      rw [renameWith, renameWith, renameAllWith_congr front inside, last outside]
  | var name => exact congrArg var (agree name (List.mem_singleton_self name))
  | apply head args all => exact congrArg (TypeExpr.apply head) (renameAllWith_congr all agree)
  | tuple elements all => exact congrArg tuple (renameAllWith_congr all agree)
  | record fields extension all =>
      rw [renameWith, renameWith, renameFieldsWith_eq_map, renameFieldsWith_eq_map]
      have same := List.map_congr_left fun field member =>
        congrArg (Prod.mk field.1) (all field member fun name inside => agree name (by
          rw [freeVariables, freeVariablesOfFields_eq_flatMap]
          exact List.mem_flatMap_of_mem member inside))
      exact congrArg (record · extension) same
  | foreign text => rfl

theorem renameWith_id (type : TypeExpr) : type.renameWith id = type := by
  induction type with
  | function params result front last =>
      rw [renameWith, last, renameAllWith_eq_map, List.map_congr_left front, List.map_id']
  | var name => rfl
  | apply head args all =>
      rw [renameWith, renameAllWith_eq_map, List.map_congr_left all, List.map_id']
  | tuple elements all =>
      rw [renameWith, renameAllWith_eq_map, List.map_congr_left all, List.map_id']
  | record fields extension all =>
      have same := List.map_congr_left fun field member =>
        congrArg (Prod.mk field.1) (all field member)
      rw [renameWith, renameFieldsWith_eq_map, same, List.map_id']
  | foreign text => rfl

end TypeExpr
end Signature
end SignatureSearch
