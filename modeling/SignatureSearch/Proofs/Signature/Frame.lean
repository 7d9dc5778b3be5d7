import SignatureSearch.Proofs.Signature.CanonicalForm
import SignatureSearch.Signature.Scoring

/-!
# The frame of a type

What stands around the variables of a type: the names of its constructors and the variables that its
records extend.  A change of the frame leaves the variables where they are, so it can be made before
or after a renaming, and the labels do not depend on it.  Similarity looks at the names that
constructors have inside their modules and at nothing else of the frame.
-/

namespace SignatureSearch
namespace Signature
namespace TypeExpr

section Frame

variable (head : QualifiedName → QualifiedName) (base : Option String → Option String)

mutual

/-- The type with its constructors and the extensions of its records passed through functions. -/
def mapFrame : TypeExpr → TypeExpr
  | function params result => function (mapFrameAll params) (mapFrame result)
  | var name => var name
  | apply name args => apply (head name) (mapFrameAll args)
  | tuple elements => tuple (mapFrameAll elements)
  | record fields extension => record (mapFrameFields fields) (base extension)
  | foreign text => foreign text

/-- The types with their constructors and extensions passed through functions. -/
def mapFrameAll : List TypeExpr → List TypeExpr
  | [] => []
  | type :: types => mapFrame type :: mapFrameAll types

/-- The fields with their constructors and extensions passed through functions. -/
def mapFrameFields : List (String × TypeExpr) → List (String × TypeExpr)
  | [] => []
  | (label, type) :: fields => (label, mapFrame type) :: mapFrameFields fields

end

theorem mapFrameAll_eq_map (types : List TypeExpr) :
    mapFrameAll head base types = types.map (mapFrame head base) := by
  induction types with
  | nil => rfl
  | cons type types ih => rw [mapFrameAll, ih, List.map_cons]

theorem mapFrameFields_eq_map (fields : List (String × TypeExpr)) :
    mapFrameFields head base fields =
      fields.map fun field => (field.1, field.2.mapFrame head base) := by
  induction fields with
  | nil => rfl
  | cons field fields ih => rw [mapFrameFields, ih, List.map_cons]

/-! ## Variables -/

theorem freeVariablesOf_map {g : TypeExpr → TypeExpr} {types : List TypeExpr}
    (all : ∀ type ∈ types, (g type).freeVariables = type.freeVariables) :
    freeVariablesOf (types.map g) = freeVariablesOf types := by
  rw [freeVariablesOf_eq_flatMap, freeVariablesOf_eq_flatMap, List.flatMap_map,
    List.flatMap_congr all]

theorem freeVariables_mapFrame (type : TypeExpr) :
    (type.mapFrame head base).freeVariables = type.freeVariables := by
  induction type with
  | function params result front last =>
      rw [mapFrame, freeVariables, freeVariables, last, mapFrameAll_eq_map,
        freeVariablesOf_map front]
  | var name => rfl
  | apply name args all =>
      rw [mapFrame, freeVariables, freeVariables, mapFrameAll_eq_map, freeVariablesOf_map all]
  | tuple elements all =>
      rw [mapFrame, freeVariables, freeVariables, mapFrameAll_eq_map, freeVariablesOf_map all]
  | record fields extension all =>
      rw [mapFrame, freeVariables, freeVariables, mapFrameFields_eq_map,
        freeVariablesOfFields_eq_flatMap, freeVariablesOfFields_eq_flatMap, List.flatMap_map,
        List.flatMap_congr all]
  | foreign text => rfl

/-- The frame is changed after a renaming as before it. -/
theorem mapFrame_renameWith (f : String → String) (type : TypeExpr) :
    (type.renameWith f).mapFrame head base = (type.mapFrame head base).renameWith f := by
  have lists : ∀ types : List TypeExpr,
      (∀ type ∈ types,
        (type.renameWith f).mapFrame head base = (type.mapFrame head base).renameWith f) →
        mapFrameAll head base (renameAllWith f types) =
          renameAllWith f (mapFrameAll head base types) := by
    intro types all
    simp only [mapFrameAll_eq_map, renameAllWith_eq_map, List.map_map]
    exact List.map_congr_left all
  induction type with
  | function params result front last =>
      simp only [renameWith, mapFrame, lists params front, last]
  | var name => rfl
  | apply name args all => simp only [renameWith, mapFrame, lists args all]
  | tuple elements all => simp only [renameWith, mapFrame, lists elements all]
  | record fields extension all =>
      simp only [renameWith, mapFrame, mapFrameFields_eq_map, renameFieldsWith_eq_map,
        List.map_map]
      have same := List.map_congr_left fun field member =>
        congrArg (Prod.mk field.1) (all field member)
      exact congrArg (record · (base extension)) same
  | foreign text => rfl

/-- The labels of variables do not depend on the frame. -/
theorem mapFrame_canonical (type : TypeExpr) :
    type.canonical.mapFrame head base = (type.mapFrame head base).canonical := by
  have labels : Renaming.canonical (type.mapFrame head base) = Renaming.canonical type := by
    rw [Renaming.canonical, Renaming.canonical, freeVariables_mapFrame]
  rw [canonical, canonical, renamed, renamed, mapFrame_renameWith, labels]

/-! ## Foreign texts -/

theorem firstForeignOf?_map {g : TypeExpr → TypeExpr} {types : List TypeExpr}
    (all : ∀ type ∈ types, (g type).firstForeign? = type.firstForeign?) :
    firstForeignOf? (types.map g) = firstForeignOf? types := by
  induction types with
  | nil => rfl
  | cons type types ih =>
      have ⟨first, rest⟩ := List.forall_mem_cons.mp all
      rw [List.map_cons, firstForeignOf?, firstForeignOf?, first, ih rest]

theorem firstForeignField?_map {g : TypeExpr → TypeExpr} {fields : List (String × TypeExpr)}
    (all : ∀ field ∈ fields, (g field.2).firstForeign? = field.2.firstForeign?) :
    firstForeignField? (fields.map fun field => (field.1, g field.2)) =
      firstForeignField? fields := by
  induction fields with
  | nil => rfl
  | cons field fields ih =>
      have ⟨first, rest⟩ := List.forall_mem_cons.mp all
      rw [List.map_cons, firstForeignField?, firstForeignField?, first, ih rest]

theorem firstForeign?_renameWith (f : String → String) (type : TypeExpr) :
    (type.renameWith f).firstForeign? = type.firstForeign? := by
  induction type with
  | function params result front last =>
      rw [renameWith, firstForeign?, firstForeign?, last, renameAllWith_eq_map,
        firstForeignOf?_map front]
  | var name => rfl
  | apply name args all => rw [renameWith, renameAllWith_eq_map]; exact firstForeignOf?_map all
  | tuple elements all => rw [renameWith, renameAllWith_eq_map]; exact firstForeignOf?_map all
  | record fields extension all =>
      rw [renameWith, renameFieldsWith_eq_map]; exact firstForeignField?_map all
  | foreign text => rfl

theorem firstForeign?_mapFrame (type : TypeExpr) :
    (type.mapFrame head base).firstForeign? = type.firstForeign? := by
  induction type with
  | function params result front last =>
      rw [mapFrame, firstForeign?, firstForeign?, last, mapFrameAll_eq_map,
        firstForeignOf?_map front]
  | var name => rfl
  | apply name args all => rw [mapFrame, mapFrameAll_eq_map]; exact firstForeignOf?_map all
  | tuple elements all => rw [mapFrame, mapFrameAll_eq_map]; exact firstForeignOf?_map all
  | record fields extension all =>
      rw [mapFrame, mapFrameFields_eq_map]; exact firstForeignField?_map all
  | foreign text => rfl

/-! ## Similarity -/

theorem similaritySum_map {g : TypeExpr → TypeExpr} {types : List TypeExpr}
    (all : ∀ type ∈ types, ∀ other : TypeExpr,
      (g type).similarity (g other) = type.similarity other)
    (others : List TypeExpr) :
    similaritySum (types.map g) (others.map g) = similaritySum types others := by
  induction types generalizing others with
  | nil => cases others <;> rfl
  | cons type types ih =>
      cases others with
      | nil => rfl
      | cons other others =>
          have ⟨first, rest⟩ := List.forall_mem_cons.mp all
          rw [List.map_cons, List.map_cons, similaritySum, similaritySum, first other,
            ih rest others]

variable {head} in
/-- Similarity depends on the names inside the modules alone. -/
theorem similarity_mapFrame (keeps : ∀ name, (head name).name = name.name)
    (type other : TypeExpr) :
    (type.mapFrame head base).similarity (other.mapFrame head base) = type.similarity other := by
  induction type generalizing other with
  | function params result front last =>
      cases other with
      | function params' result' =>
          simp only [mapFrame, mapFrameAll_eq_map, similarity, List.length_map, last result',
            similaritySum_map front params']
      | _ => rfl
  | var name => cases other with | _ => rfl
  | apply name args all =>
      cases other with
      | apply name' args' =>
          simp only [mapFrame, mapFrameAll_eq_map, similarity, List.length_map, keeps,
            similaritySum_map all args']
      | _ => rfl
  | tuple elements all =>
      cases other with
      | tuple elements' =>
          simp only [mapFrame, mapFrameAll_eq_map, similarity, similaritySum_map all elements']
      | _ => rfl
  | record fields extension _ => cases other with | _ => rfl
  | foreign text => cases other with | _ => rfl

end Frame

/-! ## Types that cannot be told apart by a search -/

/-- The type with the homes of its constructors and the extensions of its records erased. -/
def unframed : TypeExpr → TypeExpr :=
  mapFrame (fun name => { name with home := "" }) fun _ => none

/-- Two types are the same but for the names of variables, the reserved names apart, the homes of
constructors and the variables that records extend. -/
def Resembles (type other : TypeExpr) : Prop :=
  ∃ f, ConsistentRenaming f type.unframed other.unframed

theorem resembles_iff {type other : TypeExpr} :
    type.Resembles other ↔ type.canonical.unframed = other.canonical.unframed := by
  rw [Resembles, ← canonical_eq_iff, unframed, mapFrame_canonical, mapFrame_canonical]

/-- What is no type stands at the same places of types that resemble each other. -/
theorem Resembles.firstForeign?_eq {type other : TypeExpr} (resembles : type.Resembles other) :
    type.firstForeign? = other.firstForeign? := by
  have same := congrArg firstForeign? (resembles_iff.mp resembles)
  rw [unframed, firstForeign?_mapFrame, firstForeign?_mapFrame] at same
  calc type.firstForeign?
      = type.canonical.firstForeign? := (firstForeign?_renameWith _ type).symm
    _ = other.canonical.firstForeign? := same
    _ = other.firstForeign? := firstForeign?_renameWith _ other

/-- Types that resemble each other in pairs are equally similar in canonical form. -/
theorem Resembles.similarity_eq {type type' other other' : TypeExpr}
    (resembles : type.Resembles type') (others : other.Resembles other') :
    type.canonical.similarity other.canonical = type'.canonical.similarity other'.canonical := by
  have erased : ∀ type other : TypeExpr,
      type.unframed.similarity other.unframed = type.similarity other :=
    similarity_mapFrame _ fun _ => rfl
  rw [← erased, resembles_iff.mp resembles, resembles_iff.mp others, erased]

end TypeExpr
end Signature
end SignatureSearch
