import SignatureSearch.Proofs.Signature.Labels
import SignatureSearch.Proofs.Signature.Trees

/-!
# Canonical forms and renamings

Two types have one canonical form exactly when each is the other with its variables renamed, the
reserved names apart.  A renaming keeps different variables different, so it keeps the order in
which they first appear and with it their labels.  Conversely two types with one canonical form have
the same labels, and going from the variables of one to their labels and back to the variables of
the other is the renaming.
-/

namespace SignatureSearch
namespace Signature
namespace TypeExpr

mutual

/-- One type is another with its variables renamed by a function, all else being the same. -/
inductive Renames (f : String → String) : TypeExpr → TypeExpr → Prop
  | function {params params' : List TypeExpr} {result result' : TypeExpr}
      (front : RenamesAll f params params') (last : Renames f result result') :
      Renames f (.function params result) (.function params' result')
  | var {name : String} : Renames f (.var name) (.var (f name))
  | apply {head : QualifiedName} {args args' : List TypeExpr} (all : RenamesAll f args args') :
      Renames f (.apply head args) (.apply head args')
  | tuple {elements elements' : List TypeExpr} (all : RenamesAll f elements elements') :
      Renames f (.tuple elements) (.tuple elements')
  | record {fields fields' : List (String × TypeExpr)} {extension : Option String}
      (all : RenamesFields f fields fields') :
      Renames f (.record fields extension) (.record fields' extension)
  | foreign {text : String} : Renames f (.foreign text) (.foreign text)

/-- Types are others with their variables renamed, one by one. -/
inductive RenamesAll (f : String → String) : List TypeExpr → List TypeExpr → Prop
  | nil : RenamesAll f [] []
  | cons {type type' : TypeExpr} {types types' : List TypeExpr} (head : Renames f type type')
      (tail : RenamesAll f types types') : RenamesAll f (type :: types) (type' :: types')

/-- Fields are others with the variables of their types renamed, one by one. -/
inductive RenamesFields (f : String → String) :
    List (String × TypeExpr) → List (String × TypeExpr) → Prop
  | nil : RenamesFields f [] []
  | cons {label : String} {type type' : TypeExpr} {fields fields' : List (String × TypeExpr)}
      (head : Renames f type type') (tail : RenamesFields f fields fields') :
      RenamesFields f ((label, type) :: fields) ((label, type') :: fields')

end

mutual

theorem Renames.eq {f : String → String} {type other : TypeExpr} :
    Renames f type other → type.renameWith f = other
  | .function front last => by rw [renameWith, front.eq, last.eq]
  | .var => rfl
  | .apply all => by rw [renameWith, all.eq]
  | .tuple all => by rw [renameWith, all.eq]
  | .record all => by rw [renameWith, all.eq]
  | .foreign => rfl

theorem RenamesAll.eq {f : String → String} {types others : List TypeExpr} :
    RenamesAll f types others → renameAllWith f types = others
  | .nil => rfl
  | .cons head tail => by rw [renameAllWith, head.eq, tail.eq]

theorem RenamesFields.eq {f : String → String} {fields others : List (String × TypeExpr)} :
    RenamesFields f fields others → renameFieldsWith f fields = others
  | .nil => rfl
  | .cons head tail => by rw [renameFieldsWith, head.eq, tail.eq]

end

mutual

theorem renames_renameWith (f : String → String) :
    (type : TypeExpr) → Renames f type (type.renameWith f)
  | .function params result => .function (renamesAll_renameAllWith f params)
      (renames_renameWith f result)
  | .var _ => .var
  | .apply _ args => .apply (renamesAll_renameAllWith f args)
  | .tuple elements => .tuple (renamesAll_renameAllWith f elements)
  | .record fields _ => .record (renamesFields_renameFieldsWith f fields)
  | .foreign _ => .foreign

theorem renamesAll_renameAllWith (f : String → String) :
    (types : List TypeExpr) → RenamesAll f types (renameAllWith f types)
  | [] => .nil
  | type :: types => .cons (renames_renameWith f type) (renamesAll_renameAllWith f types)

theorem renamesFields_renameFieldsWith (f : String → String) :
    (fields : List (String × TypeExpr)) → RenamesFields f fields (renameFieldsWith f fields)
  | [] => .nil
  | (_, type) :: fields => .cons (renames_renameWith f type)
      (renamesFields_renameFieldsWith f fields)

end

theorem renames_iff {f : String → String} {type other : TypeExpr} :
    Renames f type other ↔ type.renameWith f = other := by
  constructor
  · exact Renames.eq
  · rintro rfl
    exact renames_renameWith f type

/-! ## Consistent renamings -/

/-- A function renames the variables of one type, each reserved name to itself and no other variable
to a reserved name, one to one onto the variables of another type, and the types are otherwise the
same. -/
structure ConsistentRenaming (f : String → String) (type other : TypeExpr) : Prop where
  /-- Different variables get different names, and the names are those of the other type. -/
  bijection : Set.BijOn f {name | name ∈ type.freeVariables} {name | name ∈ other.freeVariables}
  /-- Reserved names are kept. -/
  keeps : ∀ name ∈ type.freeVariables, name ∈ reservedNames → f name = name
  /-- No other variable gets a reserved name. -/
  avoids : ∀ name ∈ type.freeVariables, name ∉ reservedNames → f name ∉ reservedNames
  /-- The other type is the renamed one. -/
  renames : Renames f type other

/-- The same renaming, with the reserved names kept wherever they are. -/
def keepingReserved (f : String → String) (name : String) : String :=
  if name ∈ reservedNames then name else f name

theorem keepingReserved_of_reserved {f : String → String} {name : String}
    (member : name ∈ reservedNames) : keepingReserved f name = name :=
  if_pos member

theorem keepingReserved_of_not_reserved {f : String → String} {name : String}
    (notReserved : name ∉ reservedNames) : keepingReserved f name = f name :=
  if_neg notReserved

namespace ConsistentRenaming

variable {f : String → String} {type other : TypeExpr}

theorem eqOn (consistent : ConsistentRenaming f type other) :
    ∀ name ∈ type.freeVariables, f name = keepingReserved f name := by
  intro name member
  by_cases isReserved : name ∈ reservedNames
  · rw [keepingReserved_of_reserved isReserved, consistent.keeps name member isReserved]
  · rw [keepingReserved_of_not_reserved isReserved]

theorem eq_renameWith (consistent : ConsistentRenaming f type other) :
    other = type.renameWith (keepingReserved f) := by
  rw [← renames_iff.mp consistent.renames]
  exact renameWith_congr consistent.eqOn

theorem injOn (consistent : ConsistentRenaming f type other) :
    Set.InjOn (keepingReserved f) {name | name ∈ reservedNames ++ type.freeVariables} := by
  have avoids : ∀ name ∈ reservedNames ++ type.freeVariables, name ∉ reservedNames →
      f name ∉ reservedNames := by
    intro name member notReserved
    exact consistent.avoids name ((List.mem_append.mp member).resolve_left notReserved) notReserved
  intro name member next nextMember same
  by_cases first : name ∈ reservedNames
  · rw [keepingReserved_of_reserved first] at same
    by_cases second : next ∈ reservedNames
    · rwa [keepingReserved_of_reserved second] at same
    · rw [keepingReserved_of_not_reserved second] at same
      exact absurd (same ▸ first) (avoids next nextMember second)
  · rw [keepingReserved_of_not_reserved first] at same
    by_cases second : next ∈ reservedNames
    · rw [keepingReserved_of_reserved second] at same
      exact absurd (same ▸ second) (avoids name member first)
    · rw [keepingReserved_of_not_reserved second] at same
      exact consistent.bijection.injOn ((List.mem_append.mp member).resolve_left first)
        ((List.mem_append.mp nextMember).resolve_left second) same

/-- The renamed variables appear in the order of the variables. -/
theorem labelledVariables (consistent : ConsistentRenaming f type other) :
    other.labelledVariables = type.labelledVariables.map (keepingReserved f) := by
  -- The count starts from the reserved names, so the renaming has to keep those as well.
  have fixed : reservedNames.map (keepingReserved f) = reservedNames :=
    (List.map_congr_left (g := id) fun _ member => keepingReserved_of_reserved member).trans
      (List.map_id _)
  have ordered := newNames_map consistent.injOn
  rw [fixed, ← freeVariables_renameWith, ← consistent.eq_renameWith] at ordered
  exact ordered

/-- A variable and its new name have the same label. -/
theorem apply_eq (consistent : ConsistentRenaming f type other) {name : String}
    (member : name ∈ type.freeVariables) :
    (Renaming.canonical other).apply (keepingReserved f name) =
      (Renaming.canonical type).apply name := by
  by_cases isReserved : name ∈ reservedNames
  · rw [keepingReserved_of_reserved isReserved, Renaming.canonical_apply_of_reserved _ isReserved,
      Renaming.canonical_apply_of_reserved _ isReserved]
  · have inside : name ∈ type.labelledVariables :=
      mem_labelledVariables_iff.mpr ⟨member, isReserved⟩
    have injective : Set.InjOn (keepingReserved f) {name | name ∈ type.labelledVariables} := by
      refine consistent.injOn.mono fun name member => ?_
      exact List.mem_append_right _ (mem_labelledVariables_iff.mp member).1
    have renamed : keepingReserved f name ∈ other.labelledVariables := by
      rw [consistent.labelledVariables]
      exact List.mem_map_of_mem inside
    rw [Renaming.canonical_apply_of_labelled renamed, Renaming.canonical_apply_of_labelled inside,
      consistent.labelledVariables, idxOf_map injective inside]

/-- A renamed type has the canonical form of the type. -/
theorem canonical_eq (consistent : ConsistentRenaming f type other) :
    type.canonical = other.canonical := by
  have whole : other.canonical =
      type.renameWith ((Renaming.canonical other).apply ∘ keepingReserved f) := by
    rw [← renameWith_renameWith, ← consistent.eq_renameWith]
    rfl
  rw [whole]
  exact renameWith_congr fun name member => (consistent.apply_eq member).symm

end ConsistentRenaming
/-! ## From one canonical form to a renaming -/

/-- The variables of one type that have the labels of variables of another type. -/
noncomputable def throughLabels (type other : TypeExpr) : String → String :=
  Function.invFunOn (Renaming.canonical other).apply {name | name ∈ other.freeVariables} ∘
    (Renaming.canonical type).apply

section SameForm

variable {type other : TypeExpr} (same : type.canonical = other.canonical)

include same

theorem map_labels_eq :
    type.freeVariables.map (Renaming.canonical type).apply =
      other.freeVariables.map (Renaming.canonical other).apply := by
  rw [← freeVariables_renameWith, ← freeVariables_renameWith]
  exact congrArg freeVariables same

theorem labels_eq :
    (Renaming.canonical type).apply '' {name | name ∈ type.freeVariables} =
      (Renaming.canonical other).apply '' {name | name ∈ other.freeVariables} := by
  ext label
  have members : label ∈ type.freeVariables.map (Renaming.canonical type).apply ↔
      label ∈ other.freeVariables.map (Renaming.canonical other).apply := by
    rw [map_labels_eq same]
  simpa using members

theorem throughLabels_bijOn :
    Set.BijOn (throughLabels type other) {name | name ∈ type.freeVariables}
      {name | name ∈ other.freeVariables} := by
  have there := (Renaming.canonical_injOn type).bijOn_image
  have back := (Renaming.canonical_injOn other).bijOn_image
  rw [labels_eq same] at there
  exact (Set.BijOn.symm back.invOn_invFunOn.symm back).comp there

/-- A variable and the variable that it goes to have one label. -/
theorem apply_throughLabels {name : String} (member : name ∈ type.freeVariables) :
    (Renaming.canonical other).apply (throughLabels type other name) =
      (Renaming.canonical type).apply name := by
  refine Function.invFunOn_eq ?_
  have image : (Renaming.canonical type).apply name ∈
      (Renaming.canonical other).apply '' {name | name ∈ other.freeVariables} := by
    rw [← labels_eq same]
    exact Set.mem_image_of_mem _ member
  exact image

theorem throughLabels_reserved_iff {name : String} (member : name ∈ type.freeVariables) :
    throughLabels type other name ∈ reservedNames ↔ name ∈ reservedNames := by
  have label := apply_throughLabels same member
  have target := (throughLabels_bijOn same).mapsTo member
  constructor
  · intro isReserved
    by_contra notReserved
    rw [Renaming.canonical_apply_of_reserved other isReserved] at label
    exact Renaming.canonical_apply_not_reserved member notReserved (by rwa [← label])
  · intro isReserved
    by_contra notReserved
    rw [Renaming.canonical_apply_of_reserved type isReserved] at label
    exact Renaming.canonical_apply_not_reserved target notReserved (by rwa [label])

theorem renameWith_throughLabels : type.renameWith (throughLabels type other) = other := by
  have undone : ∀ name ∈ other.freeVariables,
      (Function.invFunOn (Renaming.canonical other).apply {name | name ∈ other.freeVariables} ∘
        (Renaming.canonical other).apply) name = id name := by
    intro name member
    exact (Renaming.canonical_injOn other).leftInvOn_invFunOn member
  rw [throughLabels, ← renameWith_renameWith]
  change renameWith _ type.canonical = other
  rw [same]
  change renameWith _ (other.renameWith (Renaming.canonical other).apply) = other
  rw [renameWith_renameWith, renameWith_congr undone, renameWith_id]

/-- Going through the labels is a consistent renaming. -/
theorem throughLabels_consistent : ConsistentRenaming (throughLabels type other) type other where
  bijection := throughLabels_bijOn same
  keeps := by
    intro name member isReserved
    have label := apply_throughLabels same member
    have target := (throughLabels_reserved_iff same member).mpr isReserved
    rwa [Renaming.canonical_apply_of_reserved other target,
      Renaming.canonical_apply_of_reserved type isReserved] at label
  avoids := fun _ member => mt (throughLabels_reserved_iff same member).mp
  renames := renames_iff.mpr (renameWith_throughLabels same)

end SameForm

theorem canonical_eq_iff {type other : TypeExpr} :
    type.canonical = other.canonical ↔ ∃ f, ConsistentRenaming f type other :=
  ⟨fun same => ⟨_, throughLabels_consistent same⟩, fun ⟨_, consistent⟩ => consistent.canonical_eq⟩

/-- The labels are a consistent renaming of the variables. -/
theorem canonical_consistent (type : TypeExpr) :
    ConsistentRenaming (Renaming.canonical type).apply type type.canonical where
  bijection := by
    have names : {name | name ∈ type.canonical.freeVariables} =
        (Renaming.canonical type).apply '' {name | name ∈ type.freeVariables} := by
      ext name
      rw [canonical, renamed, freeVariables_renameWith]
      exact List.mem_map
    rw [names]
    exact (Renaming.canonical_injOn type).bijOn_image
  keeps := fun _ _ => Renaming.canonical_apply_of_reserved type
  avoids := fun _ => Renaming.canonical_apply_not_reserved
  renames := renames_renameWith _ type

/-- A canonical form is its own canonical form: each of its variables has the label that it would be
given. -/
theorem canonical_canonical (type : TypeExpr) : type.canonical.canonical = type.canonical :=
  (canonical_consistent type).canonical_eq.symm

theorem normalize_of_no_foreign {type : TypeExpr} (typed : type.firstForeign? = none) :
    type.normalize = .ok type.canonical := by
  rw [normalize, checked, typed]
  rfl

/-- Types in which a type stands at every place have canonical forms, and these are the same exactly
when the types differ by a consistent renaming of their variables. -/
theorem normalize_eq_iff {type other : TypeExpr} (typed : type.firstForeign? = none)
    (otherTyped : other.firstForeign? = none) :
    ∃ form otherForm, type.normalize = .ok form ∧ other.normalize = .ok otherForm ∧
      (form = otherForm ↔ ∃ f, ConsistentRenaming f type other) :=
  ⟨_, _, normalize_of_no_foreign typed, normalize_of_no_foreign otherTyped, canonical_eq_iff⟩

/-- The variables `a` and `b` change places, and the variable that the record extends does not. -/
theorem normalize_eq_iff_swapped :
    ∃ form otherForm,
      (tuple [var "b", var "number", record [("at", var "a")] (some "a")]).normalize = .ok form ∧
      (tuple [var "a", var "number", record [("at", var "b")] (some "a")]).normalize =
        .ok otherForm ∧
      (form = otherForm ↔
        ∃ f, ConsistentRenaming f
          (tuple [var "b", var "number", record [("at", var "a")] (some "a")])
          (tuple [var "a", var "number", record [("at", var "b")] (some "a")])) :=
  normalize_eq_iff rfl rfl

end TypeExpr
end Signature
end SignatureSearch
