import Mathlib.Data.List.Basic
import Mathlib.Data.Set.Function
import SignatureSearch.Signature.Canonical

/-!
# Labels of variables

The canonical renaming of a type is the identity on the reserved names, followed by the other
variables in order of first appearance with the labels counted from zero.  Different counts have
different labels, and no label is a reserved name, so the renaming never gives two variables one
name.  It follows a change of names that keeps different names different.
-/

namespace SignatureSearch
namespace Signature

/-! ## The labels -/

theorem toList_canonicalLabel (k : Nat) :
    (canonicalLabel k).toList = List.replicate (k / 26 + 1) (Char.ofNat (97 + k % 26)) := by
  have repeats : ((k : Int) / 26 + 1).toNat = k / 26 + 1 := by omega
  have letter : ((k : Int) % 26).toNat = k % 26 := by omega
  rw [canonicalLabel, String.toList_ofList, repeats, letter]
  rfl

theorem toNat_letter (k : Nat) : (Char.ofNat (97 + k % 26)).toNat = 97 + k % 26 := by
  have valid : (97 + k % 26).isValidChar := .inl (by omega)
  rw [Char.ofNat, dif_pos valid]
  rfl

theorem canonicalLabel_injective {j k : Nat} (same : canonicalLabel j = canonicalLabel k) :
    j = k := by
  have lists := congrArg String.toList same
  rw [toList_canonicalLabel, toList_canonicalLabel, List.replicate_succ, List.replicate_succ,
    List.cons.injEq] at lists
  obtain ⟨letters, repeats⟩ := lists
  have codes := congrArg Char.toNat letters
  rw [toNat_letter, toNat_letter] at codes
  have lengths := congrArg List.length repeats
  rw [List.length_replicate, List.length_replicate] at lengths
  omega

/-- A label repeats one letter, which no reserved name does. -/
theorem canonicalLabel_not_reserved (k : Nat) : canonicalLabel k ∉ reservedNames := by
  intro member
  have constant : ∀ c ∈ (canonicalLabel k).toList, ∀ d ∈ (canonicalLabel k).toList, c = d := by
    rw [toList_canonicalLabel]
    intro c first d second
    rw [List.eq_of_mem_replicate first, List.eq_of_mem_replicate second]
  simp only [reservedNames, List.mem_cons, List.not_mem_nil, or_false] at member
  rcases member with same | same
  · rw [same] at constant
    exact absurd (constant 'n' (by decide) 'u' (by decide)) (by decide)
  · rw [same] at constant
    exact absurd (constant 'c' (by decide) 'o' (by decide)) (by decide)

/-! ## The order of first appearance -/

/-- Names in order of first appearance, apart from those seen before. -/
def newNames (seen : List String) : List String → List String
  | [] => []
  | name :: names =>
      if name ∈ seen then newNames seen names else name :: newNames (seen ++ [name]) names

theorem mem_newNames_iff {seen names : List String} {name : String} :
    name ∈ newNames seen names ↔ name ∈ names ∧ name ∉ seen := by
  induction names generalizing seen with
  | nil => simp [newNames]
  | cons first names ih =>
      rw [newNames]
      split
      · rename_i old
        rw [ih, List.mem_cons]
        constructor
        · rintro ⟨member, new⟩
          exact ⟨.inr member, new⟩
        · rintro ⟨rfl | member, new⟩
          · exact absurd old new
          · exact ⟨member, new⟩
      · rename_i new
        rw [List.mem_cons, ih, List.mem_cons, List.mem_append, List.mem_singleton]
        by_cases same : name = first
        · subst same
          simp [new]
        · simp [same]

theorem nodup_newNames (seen names : List String) : (newNames seen names).Nodup := by
  induction names generalizing seen with
  | nil => exact List.nodup_nil
  | cons first names ih =>
      rw [newNames]
      split
      · exact ih seen
      · refine List.nodup_cons.mpr ⟨fun member => ?_, ih _⟩
        exact (mem_newNames_iff.mp member).2 (List.mem_append_right _ List.mem_cons_self)

/-- Names that are changed to different names appear in the same order. -/
theorem newNames_map {f : String → String} {seen names : List String}
    (injective : Set.InjOn f {name | name ∈ seen ++ names}) :
    newNames (seen.map f) (names.map f) = (newNames seen names).map f := by
  induction names generalizing seen with
  | nil => rfl
  | cons first names ih =>
      have old : f first ∈ seen.map f ↔ first ∈ seen := by
        constructor
        · intro member
          obtain ⟨other, inside, same⟩ := List.mem_map.mp member
          have equal : other = first := injective (by simp [inside]) (by simp) same
          exact equal ▸ inside
        · exact List.mem_map_of_mem
      rw [List.map_cons, newNames, newNames]
      by_cases inside : first ∈ seen
      · rw [if_pos (old.mpr inside), if_pos inside]
        exact ih (injective.mono (by intro name; simp; tauto))
      · rw [if_neg (mt old.mp inside), if_neg inside, List.map_cons]
        have wider : Set.InjOn f {name | name ∈ (seen ++ [first]) ++ names} := by
          simpa using injective
        have later := ih wider
        rw [List.map_append] at later
        exact congrArg (f first :: ·) later

theorem idxOf_map {f : String → String} {names : List String} {name : String}
    (injective : Set.InjOn f {name | name ∈ names}) (member : name ∈ names) :
    (names.map f).idxOf (f name) = names.idxOf name := by
  induction names with
  | nil => cases member
  | cons first names ih =>
      by_cases same : first = name
      · subst same
        simp
      · have later : name ∈ names := (List.mem_cons.mp member).resolve_left (Ne.symm same)
        have differs : f first ≠ f name := fun equal =>
          same (injective List.mem_cons_self (List.mem_cons_of_mem _ later) equal)
        have inner : Set.InjOn f {name | name ∈ names} :=
          injective.mono fun _ => List.mem_cons_of_mem first
        rw [List.map_cons, List.idxOf_cons_ne _ differs, List.idxOf_cons_ne _ same,
          ih inner later]

/-! ## The canonical renaming -/

namespace Renaming

/-- Names with the labels that count on from a number. -/
def labelled (next : Nat) : List String → Renaming
  | [] => []
  | name :: names => (name, canonicalLabel next) :: labelled (next + 1) names

theorem lookup_isSome_iff {mapping : Renaming} {name : String} :
    (mapping.lookup name).isSome = true ↔ name ∈ mapping.map Prod.fst := by
  simp [List.lookup_isSome_iff]

/-- A renaming is extended to the names that it does not have, in order of first appearance. -/
theorem extend_eq (mapping : Renaming) (next : Nat) (names : List String) :
    extend mapping next names =
      mapping ++ labelled next (newNames (mapping.map Prod.fst) names) := by
  induction names generalizing mapping next with
  | nil => simp [extend, newNames, labelled]
  | cons name names ih =>
      rw [extend, newNames]
      by_cases old : name ∈ mapping.map Prod.fst
      · rw [if_pos (lookup_isSome_iff.mpr old), if_pos old, ih]
      · rw [if_neg (mt lookup_isSome_iff.mp old), if_neg old, ih, labelled]
        simp

theorem lookup_labelled {next : Nat} {names : List String} {name : String} (member : name ∈ names) :
    (labelled next names).lookup name = some (canonicalLabel (next + names.idxOf name : Nat)) := by
  induction names generalizing next with
  | nil => cases member
  | cons first names ih =>
      by_cases same : name = first
      · subst same
        simp [labelled]
      · have later : name ∈ names := (List.mem_cons.mp member).resolve_left same
        have differs : (name == first) = false := by simpa using same
        rw [labelled, List.lookup_cons, differs, List.idxOf_cons_ne names (Ne.symm same)]
        simp [ih later, Nat.add_comm, Nat.add_left_comm]

theorem keys_reserved : reserved.map Prod.fst = reservedNames := by
  simp [reserved, Function.comp_def]

end Renaming

namespace TypeExpr

/-- The variables of a type that get a label, in order of first appearance. -/
def labelledVariables (type : TypeExpr) : List String :=
  newNames reservedNames type.freeVariables

theorem mem_labelledVariables_iff {type : TypeExpr} {name : String} :
    name ∈ type.labelledVariables ↔ name ∈ type.freeVariables ∧ name ∉ reservedNames :=
  mem_newNames_iff

end TypeExpr

namespace Renaming

theorem canonical_eq (type : TypeExpr) :
    canonical type = reserved ++ labelled 0 type.labelledVariables := by
  rw [canonical, extend_eq, keys_reserved, TypeExpr.labelledVariables]

theorem canonical_apply_of_reserved (type : TypeExpr) {name : String}
    (member : name ∈ reservedNames) : (canonical type).apply name = name := by
  have found : reserved.lookup name = some name := by
    simp only [reservedNames, List.mem_cons, List.not_mem_nil, or_false] at member
    rcases member with rfl | rfl <;> decide
  rw [apply, canonical_eq, List.lookup_append, found]
  rfl

theorem canonical_apply_of_labelled {type : TypeExpr} {name : String}
    (member : name ∈ type.labelledVariables) :
    (canonical type).apply name = canonicalLabel (type.labelledVariables.idxOf name : Nat) := by
  obtain ⟨-, notReserved⟩ := TypeExpr.mem_labelledVariables_iff.mp member
  have missing : reserved.lookup name = none := by
    rw [← Option.not_isSome_iff_eq_none, lookup_isSome_iff, keys_reserved]
    exact notReserved
  rw [apply, canonical_eq, List.lookup_append, missing, lookup_labelled member, Nat.zero_add]
  rfl

/-- A variable that is not a reserved name gets a name that is not one. -/
theorem canonical_apply_not_reserved {type : TypeExpr} {name : String}
    (member : name ∈ type.freeVariables) (notReserved : name ∉ reservedNames) :
    (canonical type).apply name ∉ reservedNames := by
  rw [canonical_apply_of_labelled (TypeExpr.mem_labelledVariables_iff.mpr ⟨member, notReserved⟩)]
  exact canonicalLabel_not_reserved _

/-- Different variables get different names. -/
theorem canonical_injOn (type : TypeExpr) :
    Set.InjOn (canonical type).apply {name | name ∈ type.freeVariables} := by
  intro name member other otherMember same
  by_cases first : name ∈ reservedNames
  · rw [canonical_apply_of_reserved type first] at same
    by_cases second : other ∈ reservedNames
    · rw [same, canonical_apply_of_reserved type second]
    · exact absurd (same ▸ first) (canonical_apply_not_reserved otherMember second)
  · by_cases second : other ∈ reservedNames
    · rw [canonical_apply_of_reserved type second] at same
      exact absurd (same ▸ second) (canonical_apply_not_reserved member first)
    · have one := TypeExpr.mem_labelledVariables_iff.mpr ⟨member, first⟩
      have two := TypeExpr.mem_labelledVariables_iff.mpr ⟨otherMember, second⟩
      rw [canonical_apply_of_labelled one, canonical_apply_of_labelled two] at same
      exact (List.idxOf_inj one).mp (canonicalLabel_injective same)

end Renaming
end Signature
end SignatureSearch
