import Mathlib.Data.List.Nodup
import SignatureSearch.Proofs.Signature.Labelled
import SignatureSearch.Proofs.Signature.RoundTrip

/-!
# The map of new names

The renaming of a type is a list: the reserved names with themselves, and after them the other
variables of the type in the order in which they are first met, the `k`-th with the `k`-th label.
No name is listed twice and none is given twice.  The labels are names of variables, so the
canonical form of a type that is read from a signature is written by one.
-/

namespace SignatureSearch
namespace Signature

/-- New names come in the order in which they are first met. -/
theorem pairwise_newNames (seen names : List String) :
    (newNames seen names).Pairwise fun one other => names.idxOf one < names.idxOf other := by
  induction names generalizing seen with
  | nil => exact List.Pairwise.nil
  | cons first names ih =>
      -- One place further on for every name but the first.
      have shifted : ∀ {old : List String}, first ∈ old →
          (newNames old names).Pairwise fun one other =>
            (first :: names).idxOf one < (first :: names).idxOf other := by
        intro old known
        refine (ih old).imp_of_mem fun {one other} member later before => ?_
        have apart : ∀ {name}, name ∈ newNames old names → first ≠ name := by
          rintro name inside rfl
          exact (mem_newNames_iff.mp inside).2 known
        rw [List.idxOf_cons_ne names (apart member), List.idxOf_cons_ne names (apart later)]
        exact Nat.succ_lt_succ before
      rw [newNames]
      split
      · rename_i known
        exact shifted known
      · have known : first ∈ seen ++ [first] := List.mem_append_right seen List.mem_cons_self
        refine List.Pairwise.cons (fun name member => ?_) (shifted known)
        have apart : first ≠ name := by
          rintro rfl
          exact (mem_newNames_iff.mp member).2 known
        rw [List.idxOf_cons_self, List.idxOf_cons_ne names apart]
        exact Nat.succ_pos _

namespace Renaming

theorem labelled_eq_mapIdx (next : Nat) (names : List String) :
    labelled next names =
      names.mapIdx fun k name => (name, canonicalLabel (next + k : Nat)) := by
  induction names generalizing next with
  | nil => rfl
  | cons name names ih =>
      have shifted (k : Nat) : next + 1 + k = next + (k + 1) := by omega
      simp only [labelled, ih, List.mapIdx_cons, shifted, Nat.add_zero]

/-- The labels are given out in their order. -/
theorem values_labelled (next : Nat) (names : List String) :
    (labelled next names).map Prod.snd =
      (List.range' next names.length).map fun k : Nat => canonicalLabel k := by
  induction names generalizing next with
  | nil => rfl
  | cons name names ih =>
      rw [labelled, List.map_cons, ih, List.length_cons, List.range'_succ, List.map_cons]

theorem values_reserved : reserved.map Prod.snd = reservedNames := by
  simp [reserved, Function.comp_def]

/-- No name is renamed twice. -/
theorem nodup_keys_canonical (type : TypeExpr) : ((canonical type).map Prod.fst).Nodup := by
  rw [canonical_eq, List.map_append, keys_reserved, keys_labelled]
  refine List.Nodup.append (by decide) (nodup_newNames _ _) fun name isReserved member => ?_
  exact (TypeExpr.mem_labelledVariables_iff.mp member).2 isReserved

/-- No name is given twice. -/
theorem nodup_values_canonical (type : TypeExpr) : ((canonical type).map Prod.snd).Nodup := by
  rw [canonical_eq, List.map_append, values_reserved, values_labelled]
  refine List.Nodup.append (by decide) ?_ fun name isReserved member => ?_
  · exact List.Nodup.map (fun _ _ => canonicalLabel_injective) List.nodup_range'
  · obtain ⟨k, -, rfl⟩ := List.mem_map.mp member
    exact canonicalLabel_not_reserved k isReserved

end Renaming

/-- The renaming of a type lists the reserved names with themselves and after them the other
variables of the type in order of first appearance, the `k`-th with the `k`-th label; no name is
renamed or given twice.  Different counts have different labels; a label is the name of a variable
and is not reserved.  So the canonical form of a type that is read from a signature has a qualified
text that is read back as that form. -/
theorem canonical_lists :
    (∀ type : TypeExpr, ∃ names : List String,
      (∀ name, name ∈ names ↔ name ∈ type.freeVariables ∧ name ∉ reservedNames) ∧
      (names.Pairwise fun one other =>
        type.freeVariables.idxOf one < type.freeVariables.idxOf other) ∧
      Renaming.canonical type = reservedNames.map (fun name => (name, name))
        ++ names.mapIdx (fun k name => (name, canonicalLabel k)) ∧
      ((Renaming.canonical type).map Prod.fst).Nodup ∧
      ((Renaming.canonical type).map Prod.snd).Nodup) ∧
    (∀ j k : Nat, canonicalLabel j = canonicalLabel k → j = k) ∧
    (∀ k : Nat, canonicalLabel k ∉ reservedNames ∧ IsVariable (canonicalLabel k)) ∧
    ∀ (signature : String) (type : TypeExpr), parse? signature = .ok type →
      ∃ form text, type.normalize = .ok form ∧ form.render .qualified = .ok text ∧
        parse? text = .ok form := by
  refine ⟨fun type => ⟨type.labelledVariables, ?_, pairwise_newNames _ _, ?_,
      Renaming.nodup_keys_canonical type, Renaming.nodup_values_canonical type⟩,
    fun _ _ => canonicalLabel_injective,
    fun k => ⟨canonicalLabel_not_reserved k, isVariable_canonicalLabel k⟩, ?_⟩
  · exact fun name => TypeExpr.mem_labelledVariables_iff
  · rw [Renaming.canonical_eq, Renaming.labelled_eq_mapIdx]
    simp only [Nat.zero_add]
    rfl
  · intro signature type accepted
    have wellFormed := wellFormed_of_parse? accepted
    have form := wellFormed.canonical
    exact ⟨_, _, TypeExpr.normalize_of_no_foreign wellFormed.firstForeign?_eq_none,
      form.render .qualified, form.parse?_text⟩

end Signature
end SignatureSearch
