import SignatureSearch.Proofs.Signature.CanonicalForm
import SignatureSearch.Proofs.Signature.Progress
import SignatureSearch.Proofs.Signature.Subtrees

/-!
# Labels and extended variables

The variable that a record extends keeps its name, and labels are given out without a look at such
names.  So a variable takes the name of an extended variable that it was not exactly when that name
is the label that its turn brings; no other name can be met in this way.
-/

namespace SignatureSearch
namespace Signature
namespace TypeExpr

/-- The variable that a type extends, if it is a record that extends one. -/
def extension? : TypeExpr → Option String
  | record _ extension => extension
  | _ => none

/-- The variables that the records in a type extend, from the left. -/
def extensions (type : TypeExpr) : List String :=
  type.subtrees.filterMap extension?

/-- The turn of a variable brings a name as its label. -/
def GetsLabel (type : TypeExpr) (name label : String) : Prop :=
  ∃ k : Nat, type.labelledVariables[k]? = some name ∧ canonicalLabel k = label

/-! ## Renaming leaves extensions alone -/

theorem subtreesOf_renameAllWith {f : String → String} {types : List TypeExpr}
    (all : ∀ type ∈ types, (type.renameWith f).subtrees = type.subtrees.map (renameWith f)) :
    subtreesOf (renameAllWith f types) = (subtreesOf types).map (renameWith f) := by
  rw [renameAllWith_eq_map]
  exact subtreesOf_map all

/-- The types inside a renamed type are the renamed types inside it. -/
theorem subtrees_renameWith (f : String → String) (type : TypeExpr) :
    (type.renameWith f).subtrees = type.subtrees.map (renameWith f) := by
  induction type with
  | function params result front last =>
      rw [renameWith, subtrees, subtrees, subtreesOf_renameAllWith front, last, List.map_cons,
        List.map_append, renameWith]
  | var name => rfl
  | apply head args all =>
      rw [renameWith, subtrees, subtrees, subtreesOf_renameAllWith all, List.map_cons, renameWith]
  | tuple elements all =>
      rw [renameWith, subtrees, subtrees, subtreesOf_renameAllWith all, List.map_cons, renameWith]
  | record fields extension all =>
      rw [renameWith, subtrees, subtrees, renameFieldsWith_eq_map, subtreesOfFields_eq_flatMap,
        subtreesOfFields_eq_flatMap, List.flatMap_map, List.map_cons, List.map_flatMap,
        List.flatMap_congr all, renameWith, renameFieldsWith_eq_map]
  | foreign text => rfl

theorem extension?_renameWith (f : String → String) (type : TypeExpr) :
    (type.renameWith f).extension? = type.extension? := by
  cases type <;> rfl

theorem extensions_renameWith (f : String → String) (type : TypeExpr) :
    (type.renameWith f).extensions = type.extensions := by
  rw [extensions, subtrees_renameWith, List.filterMap_map, extensions]
  exact List.filterMap_congr fun part _ => extension?_renameWith f part

/-! ## Names that labels meet -/

/-- A variable that is no reserved name is given the label that its turn brings. -/
theorem canonical_apply_eq_iff_getsLabel {type : TypeExpr} {name label : String}
    (member : name ∈ type.freeVariables) (notReserved : name ∉ reservedNames) :
    (Renaming.canonical type).apply name = label ↔ type.GetsLabel name label := by
  have labelled : name ∈ type.labelledVariables :=
    mem_labelledVariables_iff.mpr ⟨member, notReserved⟩
  rw [Renaming.canonical_apply_of_labelled labelled]
  constructor
  · exact fun met => ⟨_, List.getElem?_idxOf labelled, met⟩
  · rintro ⟨k, turn, rfl⟩
    obtain ⟨inside, here⟩ := List.getElem?_eq_some_iff.mp turn
    have nodup : type.labelledVariables.Nodup := nodup_newNames reservedNames type.freeVariables
    rw [← here, nodup.idxOf_getElem]

/-- A variable is given a name other than its own exactly when its turn brings that name as a
label. -/
theorem canonical_apply_eq_iff {type : TypeExpr} {name other : String}
    (member : name ∈ type.freeVariables) (distinct : name ≠ other) :
    (Renaming.canonical type).apply name = other ↔ type.GetsLabel name other := by
  by_cases isReserved : name ∈ reservedNames
  · rw [Renaming.canonical_apply_of_reserved type isReserved]
    refine iff_of_false distinct ?_
    rintro ⟨k, turn, -⟩
    exact (mem_labelledVariables_iff.mp (List.mem_of_getElem? turn)).2 isReserved
  · exact canonical_apply_eq_iff_getsLabel member isReserved

/-- The variable at a place of a canonical form is the new name of the one at that place. -/
theorem getElem?_freeVariables_canonical {type : TypeExpr} {place : Nat} {name : String}
    (here : type.freeVariables[place]? = some name) :
    type.canonical.freeVariables[place]? = some ((Renaming.canonical type).apply name) := by
  rw [canonical, renamed, freeVariables_renameWith, List.getElem?_map, here]
  rfl

/-- Where two types with one canonical form have different variables, neither is reserved. -/
theorem not_reserved_of_ne {type other : TypeExpr} (same : type.canonical = other.canonical)
    {place : Nat} {name next : String} (here : type.freeVariables[place]? = some name)
    (there : other.freeVariables[place]? = some next) (distinct : name ≠ next) :
    next ∉ reservedNames := by
  intro isReserved
  have shown := getElem?_freeVariables_canonical here
  rw [same, getElem?_freeVariables_canonical there,
    Renaming.canonical_apply_of_reserved other isReserved, Option.some.injEq] at shown
  by_cases reservedToo : name ∈ reservedNames
  · rw [Renaming.canonical_apply_of_reserved type reservedToo] at shown
    exact distinct shown.symm
  · refine Renaming.canonical_apply_not_reserved (List.mem_of_getElem? here) reservedToo ?_
    rwa [← shown]

/-- **Labels meet extended variables.**  A normalized type extends the variables that the type
extends, and has its variables under their new names, place by place.  A variable is given the name
of an extended variable that it was not exactly when its turn brings that name as a label.  So where
one of two signatures with one normalized form has an extended variable and the other a different
one, the form shows the extended variable exactly when the turn brings its name, in both. -/
theorem extension_met_iff {signature : String} {type : TypeExpr}
    (accepted : parse? signature = .ok type) :
    ∃ form, type.normalize = .ok form ∧
      form.extensions = type.extensions ∧
      form.freeVariables = type.freeVariables.map (Renaming.canonical type).apply ∧
      (∀ extension ∈ type.extensions, ∀ name ∈ type.freeVariables, name ≠ extension →
        ((Renaming.canonical type).apply name = extension ↔ type.GetsLabel name extension)) ∧
      ∀ (source : String) (other : TypeExpr), parse? source = .ok other →
        other.normalize = .ok form → ∀ extension ∈ other.extensions, ∀ (place : Nat) name,
          other.freeVariables[place]? = some extension →
          type.freeVariables[place]? = some name → name ≠ extension →
            (form.freeVariables[place]? = some extension ↔ type.GetsLabel name extension) ∧
            (type.GetsLabel name extension ↔ other.GetsLabel extension extension) := by
  have typed := (wellFormed_of_parse? accepted).firstForeign?_eq_none
  refine ⟨type.canonical, normalize_of_no_foreign typed,
    extensions_renameWith (Renaming.canonical type).apply type,
    freeVariables_renameWith (Renaming.canonical type).apply type, ?_, ?_⟩
  · intro extension _ name member distinct
    exact canonical_apply_eq_iff member distinct
  · intro source other accepted' normalized extension _ place name there here distinct
    have typed' := (wellFormed_of_parse? accepted').firstForeign?_eq_none
    have same : type.canonical = other.canonical :=
      (Except.ok.inj ((normalize_of_no_foreign typed').symm.trans normalized)).symm
    have shown := getElem?_freeVariables_canonical here
    have met : type.canonical.freeVariables[place]? = some extension ↔
        type.GetsLabel name extension := by
      rw [shown, Option.some.injEq]
      exact canonical_apply_eq_iff (List.mem_of_getElem? here) distinct
    refine ⟨met, met.symm.trans ?_⟩
    rw [same, getElem?_freeVariables_canonical there, Option.some.injEq]
    exact canonical_apply_eq_iff_getsLabel (List.mem_of_getElem? there)
      (not_reserved_of_ne same here there distinct)

/-- The second variable of a type is given the name of an extended variable, which is `b`. -/
theorem extension_met_iff_second :
    ∃ form, (function [var "x", record [("at", var "y")] (some "b")] (var "y")).normalize =
        .ok form ∧
      form.extensions = ["b"] ∧ form.freeVariables = ["a", "b", "b"] := by
  have accepted : parse? "x -> \x7b b | at : y \x7d -> y" =
      .ok (function [var "x", record [("at", var "y")] (some "b")] (var "y")) :=
    parse?_eq_of_parseWithin (by decide +kernel)
  obtain ⟨form, normalized, extensions, names, -⟩ := extension_met_iff accepted
  exact ⟨form, normalized, extensions, names⟩

/-- Two signatures, of which only one has the variable that its record extends beside the record,
are given one normalized form, since `a` is the first label. -/
theorem extension_met_first :
    ¬ (∀ (signature : String) (type : TypeExpr), parse? signature = .ok type →
      ∀ extension ∈ type.extensions, ∀ name ∈ type.freeVariables, name ≠ extension →
        (Renaming.canonical type).apply name ≠ extension) ∧
    ∃ type other, parse? "\x7b a | at : () \x7d -> b" = .ok type ∧
      parse? "\x7b a | at : () \x7d -> a" = .ok other ∧ type.canonical = other.canonical := by
  have accepted : parse? "\x7b a | at : () \x7d -> b" =
      .ok (function [record [("at", unit)] (some "a")] (var "b")) :=
    parse?_eq_of_parseWithin (by decide +kernel)
  have accepted' : parse? "\x7b a | at : () \x7d -> a" =
      .ok (function [record [("at", unit)] (some "a")] (var "a")) :=
    parse?_eq_of_parseWithin (by decide +kernel)
  refine ⟨fun claim => ?_, _, _, accepted, accepted', by decide⟩
  exact claim _ _ accepted "a" (by decide) "b" (by decide) (by decide) (by decide)

end TypeExpr
end Signature
end SignatureSearch
