import SignatureSearch.Proofs.Signature.Trees
import SignatureSearch.Signature.Scoring

/-!
# Both measures are symmetric

It does not matter in which order two types are compared.  Names overlap in both directions or in
none, lists of parts are paired up to the end of the shorter one, and every other case asks for the
same of both types.
-/

namespace SignatureSearch
namespace Signature

/-! ## Names and counts -/

theorem overlap_comm (a b : String) : overlap a b = overlap b a :=
  Bool.or_comm _ _

theorem compareNames_comm (a b : String) : compareNames a b = compareNames b a := by
  rw [compareNames, compareNames, overlap_comm a b]
  simp only [eq_comm]

theorem namePenalty_comm (mismatch : Nat) (a b : String) :
    namePenalty mismatch a b = namePenalty mismatch b a := by
  rw [namePenalty, namePenalty, overlap_comm a b]
  simp only [eq_comm]

theorem gap_comm (m n : Nat) : gap m n = gap n m :=
  Nat.add_comm _ _

namespace TypeExpr

/-! ## Parts in pairs -/

/-- What follows for every part of the first list, against whatever type, follows for every pair. -/
theorem forall_pairs_imp {types others : List TypeExpr} {p q : TypeExpr → TypeExpr → Prop}
    (all : ∀ type ∈ types, ∀ {other : TypeExpr}, p type other → q type other)
    (pairs : ∀ pair ∈ types.zip others, p pair.1 pair.2) :
    ∀ pair ∈ types.zip others, q pair.1 pair.2 := by
  intro pair member
  exact all pair.1 (List.of_mem_zip member).1 (pairs pair member)

theorem similaritySum_comm {types : List TypeExpr}
    (all : ∀ type ∈ types, ∀ other : TypeExpr, type.similarity other = other.similarity type)
    (others : List TypeExpr) : similaritySum types others = similaritySum others types := by
  induction types generalizing others with
  | nil => cases others <;> rfl
  | cons type types ih =>
      cases others with
      | nil => rfl
      | cons other others =>
          obtain ⟨first, rest⟩ := List.forall_mem_cons.mp all
          rw [similaritySum, similaritySum, first other, ih rest]

theorem distanceSum_comm {types : List TypeExpr}
    (all : ∀ type ∈ types, ∀ other : TypeExpr, type.distance other = other.distance type)
    (others : List TypeExpr) : distanceSum types others = distanceSum others types := by
  induction types generalizing others with
  | nil => cases others <;> rfl
  | cons type types ih =>
      cases others with
      | nil => rfl
      | cons other others =>
          obtain ⟨first, rest⟩ := List.forall_mem_cons.mp all
          rw [distanceSum, distanceSum, first other, ih rest]

/-! ## Types -/

theorem similarity_comm (type other : TypeExpr) :
    type.similarity other = other.similarity type := by
  induction type generalizing other with
  | function params result front last =>
      cases other with
      | function params' result' =>
          rw [similarity, similarity, similaritySum_comm front, last]
          simp only [eq_comm]
      | _ => rfl
  | var name =>
      cases other with
      | var name' => exact compareNames_comm name name'
      | _ => rfl
  | apply head args all =>
      cases other with
      | apply head' args' =>
          rw [similarity, similarity, similaritySum_comm all, compareNames_comm]
          simp only [eq_comm]
      | _ => rfl
  | tuple elements all =>
      cases other with
      | tuple elements' => exact similaritySum_comm all elements'
      | _ => rfl
  | record fields extension _ => cases other <;> rfl
  | foreign text => cases other <;> rfl

theorem distance_comm (type other : TypeExpr) : type.distance other = other.distance type := by
  induction type generalizing other with
  | function params result front last =>
      cases other with
      | function params' result' =>
          rw [distance, distance, distanceSum_comm front, last, gap_comm]
          simp only [eq_comm]
      | _ => rfl
  | var name =>
      cases other with
      | var name' => exact namePenalty_comm _ name name'
      | _ => rfl
  | apply head args all =>
      cases other with
      | apply head' args' =>
          rw [distance, distance, distanceSum_comm all, namePenalty_comm _ head.home,
            namePenalty_comm _ head.name]
          simp only [eq_comm, and_comm]
      | _ => rfl
  | tuple elements all =>
      cases other with
      | tuple elements' => exact distanceSum_comm all elements'
      | _ => rfl
  | record fields extension _ => cases other <;> rfl
  | foreign text => cases other <;> rfl

/-- Neither measure depends on the order of the two types. -/
theorem measures_symmetric (type other : TypeExpr) :
    type.similarity other = other.similarity type ∧ type.distance other = other.distance type :=
  ⟨similarity_comm type other, distance_comm type other⟩

/-- A tuple is compared as far as the shorter one goes, in either order. -/
example :
    distance (.tuple [.var "a", .unit]) (.tuple [.var "ab"]) = 1 ∧
      distance (.tuple [.var "ab"]) (.tuple [.var "a", .unit]) = 1 := by decide

end TypeExpr
end Signature
end SignatureSearch
