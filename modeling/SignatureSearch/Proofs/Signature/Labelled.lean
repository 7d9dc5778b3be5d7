import SignatureSearch.Proofs.Signature.CanonicalForm
import SignatureSearch.Proofs.Signature.WellFormed

/-!
# Canonical forms that signatures write

A label repeats a small letter and so is the name of a variable.  Hence a type that some signature
writes has a canonical form that some signature writes.
-/

namespace SignatureSearch
namespace Signature

open Lexeme (startsName)

/-! ## Labels as names of variables -/

theorem letter_starts (k : Nat) :
    startsName (Char.ofNat (97 + k % 26)) = true ∧ (Char.ofNat (97 + k % 26)).isUpper = false := by
  have letters : ∀ i < 26,
      startsName (Char.ofNat (97 + i)) = true ∧ (Char.ofNat (97 + i)).isUpper = false := by
    decide
  exact letters _ (Nat.mod_lt k (by decide))

/-- A label is the name of a variable. -/
theorem isVariable_canonicalLabel (k : Nat) : IsVariable (canonicalLabel k) := by
  obtain ⟨starts, small⟩ := letter_starts k
  have identifier : IsIdentifier (canonicalLabel k) := by
    refine ⟨_, _, toList_canonicalLabel k, starts, fun c member => ?_⟩
    rw [List.eq_of_mem_replicate member]
    exact continuesName_of_startsName starts
  refine ⟨identifier, identifier.undotted, fun c first => ?_⟩
  rw [toList_canonicalLabel, List.replicate_succ] at first
  rwa [← Option.some.inj first]

namespace Renaming

theorem keys_labelled (next : Nat) (names : List String) :
    (labelled next names).map Prod.fst = names := by
  induction names generalizing next with
  | nil => rfl
  | cons name names ih => rw [labelled, List.map_cons, ih]

/-- The canonical renaming of a type leaves a name alone or replaces it by a label. -/
theorem canonical_apply_cases (type : TypeExpr) (name : String) :
    (canonical type).apply name = name ∨
      ∃ k : Nat, (canonical type).apply name = canonicalLabel k := by
  by_cases isReserved : name ∈ reservedNames
  · exact .inl (canonical_apply_of_reserved type isReserved)
  by_cases member : name ∈ type.labelledVariables
  · exact .inr ⟨_, canonical_apply_of_labelled member⟩
  · have missing : (canonical type).lookup name = none := by
      rw [← Option.not_isSome_iff_eq_none, lookup_isSome_iff, canonical_eq, List.map_append,
        keys_reserved, keys_labelled]
      exact fun known => (List.mem_append.mp known).elim isReserved member
    rw [apply, missing]
    exact .inl rfl

theorem isVariable_canonical_apply (type : TypeExpr) {name : String} (plain : IsVariable name) :
    IsVariable ((canonical type).apply name) := by
  rcases canonical_apply_cases type name with same | ⟨k, label⟩
  · rwa [same]
  · rw [label]
    exact isVariable_canonicalLabel k

end Renaming

namespace TypeExpr

/-! ## Well-formed types under a renaming -/

section Renamed

variable {f : String → String}

theorem isFunction_renameWith (type : TypeExpr) :
    (type.renameWith f).isFunction = type.isFunction := by
  cases type <;> rfl

/-- A renaming that gives variables the names of variables keeps a type well-formed. -/
theorem WellFormed.renameWith (keeps : ∀ name, IsVariable name → IsVariable (f name))
    {type : TypeExpr} (wellFormed : WellFormed type) : WellFormed (type.renameWith f) := by
  induction wellFormed with
  | function nonempty _ _ flat all last =>
      rw [TypeExpr.renameWith, renameAllWith_eq_map]
      exact .function (by simpa using nonempty) (List.forall_mem_map.mpr all) last
        (by rwa [isFunction_renameWith])
  | var plain => exact .var (keeps _ plain)
  | unit => exact .unit
  | apply proper _ all =>
      rw [TypeExpr.renameWith, renameAllWith_eq_map]
      exact .apply proper (List.forall_mem_map.mpr all)
  | tuple two _ all =>
      rw [TypeExpr.renameWith, renameAllWith_eq_map]
      exact .tuple (by simpa using two) (List.forall_mem_map.mpr all)
  | record labels _ based all =>
      rw [TypeExpr.renameWith, renameFieldsWith_eq_map]
      refine .record (List.forall_mem_map.mpr labels) (List.forall_mem_map.mpr all) ?_
      exact fun name base => ⟨(based name base).1, by simpa using (based name base).2⟩

end Renamed

/-- The canonical form of a type that some signature writes is written by some signature. -/
theorem WellFormed.canonical {type : TypeExpr} (wellFormed : WellFormed type) :
    WellFormed type.canonical :=
  wellFormed.renameWith fun _ => Renaming.isVariable_canonical_apply type

end TypeExpr
end Signature
end SignatureSearch
