import SignatureSearch.Proofs.Signature.Frame
import SignatureSearch.Proofs.Signature.WellFormed

/-!
# Types inside a type

A type together with all the types inside it, in records too.  What is said of a frame is said of
every type inside, and well-formedness passes on to all of them.
-/

namespace SignatureSearch
namespace Signature
namespace TypeExpr

mutual

/-- The type and the types inside it, each before its own parts. -/
def subtrees : TypeExpr → List TypeExpr
  | function params result => function params result :: (subtreesOf params ++ subtrees result)
  | var name => [var name]
  | apply head args => apply head args :: subtreesOf args
  | tuple elements => tuple elements :: subtreesOf elements
  | record fields extension => record fields extension :: subtreesOfFields fields
  | foreign text => [foreign text]

/-- The types and the types inside them. -/
def subtreesOf : List TypeExpr → List TypeExpr
  | [] => []
  | type :: types => subtrees type ++ subtreesOf types

/-- The types of the fields and the types inside them. -/
def subtreesOfFields : List (String × TypeExpr) → List TypeExpr
  | [] => []
  | (_, type) :: fields => subtrees type ++ subtreesOfFields fields

end

theorem subtreesOf_eq_flatMap (types : List TypeExpr) :
    subtreesOf types = types.flatMap subtrees := by
  induction types with
  | nil => rfl
  | cons type types ih => rw [subtreesOf, ih, List.flatMap_cons]

theorem subtreesOfFields_eq_flatMap (fields : List (String × TypeExpr)) :
    subtreesOfFields fields = fields.flatMap fun field => field.2.subtrees := by
  induction fields with
  | nil => rfl
  | cons field fields ih => rw [subtreesOfFields, ih, List.flatMap_cons]

theorem mem_subtreesOf {part type : TypeExpr} {types : List TypeExpr} (member : type ∈ types)
    (inside : part ∈ type.subtrees) : part ∈ subtreesOf types := by
  rw [subtreesOf_eq_flatMap]
  exact List.mem_flatMap_of_mem member inside

theorem mem_subtreesOfFields {part : TypeExpr} {field : String × TypeExpr}
    {fields : List (String × TypeExpr)} (member : field ∈ fields)
    (inside : part ∈ field.2.subtrees) : part ∈ subtreesOfFields fields := by
  rw [subtreesOfFields_eq_flatMap]
  exact List.mem_flatMap_of_mem member inside

theorem self_mem_subtrees (type : TypeExpr) : type ∈ type.subtrees := by
  cases type <;> exact List.mem_cons_self

section Frame

variable (head : QualifiedName → QualifiedName) (base : Option String → Option String)

theorem subtreesOf_map {g : TypeExpr → TypeExpr} {types : List TypeExpr}
    (all : ∀ type ∈ types, (g type).subtrees = type.subtrees.map g) :
    subtreesOf (types.map g) = (subtreesOf types).map g := by
  rw [subtreesOf_eq_flatMap, subtreesOf_eq_flatMap, List.flatMap_map, List.map_flatMap,
    List.flatMap_congr all]

/-- The frame of a type is changed together with those of the types inside it. -/
theorem subtrees_mapFrame (type : TypeExpr) :
    (type.mapFrame head base).subtrees = type.subtrees.map (mapFrame head base) := by
  induction type with
  | function params result front last =>
      simp only [mapFrame, subtrees, mapFrameAll_eq_map, subtreesOf_map front, last,
        List.map_cons, List.map_append]
  | var name => rfl
  | apply name args all =>
      simp only [mapFrame, subtrees, mapFrameAll_eq_map, subtreesOf_map all, List.map_cons]
  | tuple elements all =>
      simp only [mapFrame, subtrees, mapFrameAll_eq_map, subtreesOf_map all, List.map_cons]
  | record fields extension all =>
      simp only [mapFrame, subtrees, mapFrameFields_eq_map, subtreesOfFields_eq_flatMap,
        List.flatMap_map, List.map_cons, List.map_flatMap, List.flatMap_congr all]
  | foreign text => rfl

end Frame

/-- The types inside a well-formed type are well-formed. -/
theorem WellFormed.subtree {type : TypeExpr} (wellFormed : WellFormed type) :
    ∀ part ∈ type.subtrees, WellFormed part := by
  induction wellFormed with
  | @function params result nonempty all last flat ihAll ihLast =>
      rw [subtrees, subtreesOf_eq_flatMap]
      simp only [List.forall_mem_cons, List.forall_mem_append, List.forall_mem_flatMap]
      exact ⟨.function nonempty all last flat, ihAll, ihLast⟩
  | var plain => simpa [subtrees] using WellFormed.var plain
  | unit => simpa [TypeExpr.unit, subtrees, subtreesOf] using WellFormed.unit
  | apply proper all ih =>
      rw [subtrees, subtreesOf_eq_flatMap, List.forall_mem_cons, List.forall_mem_flatMap]
      exact ⟨.apply proper all, ih⟩
  | tuple two all ih =>
      rw [subtrees, subtreesOf_eq_flatMap, List.forall_mem_cons, List.forall_mem_flatMap]
      exact ⟨.tuple two all, ih⟩
  | record labels all based ih =>
      rw [subtrees, subtreesOfFields_eq_flatMap, List.forall_mem_cons, List.forall_mem_flatMap]
      exact ⟨.record labels all based, ih⟩

end TypeExpr
end Signature
end SignatureSearch
