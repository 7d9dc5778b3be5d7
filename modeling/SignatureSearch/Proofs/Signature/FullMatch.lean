import SignatureSearch.Proofs.Signature.SelfSimilarity
import SignatureSearch.Proofs.Signature.Symmetry

/-!
# Greatest similarity

Every variable and every constructor that no record hides adds ten to the similarity of a type to
itself, and no other type can be more similar to it than that.  The greatest similarity is reached
exactly by the types in which all of them are met again: at the same place, under the same name and
with as many arguments, while modules do not count and a tuple may be cut short before elements that
expose nothing.
-/

namespace SignatureSearch
namespace Signature
namespace TypeExpr

mutual

/-- How many variables and constructors stand in a type, in no record of it. -/
def exposures : TypeExpr → Nat
  | function params result => exposuresOf params + exposures result
  | var _ => 1
  | apply _ args => 1 + exposuresOf args
  | tuple elements => exposuresOf elements
  | record _ _ => 0
  | foreign _ => 0

/-- How many variables and constructors stand in types, in no record of them. -/
def exposuresOf : List TypeExpr → Nat
  | [] => 0
  | type :: types => exposures type + exposuresOf types

end

/-- All that a type exposes is met again in another type. -/
inductive FullMatch : TypeExpr → TypeExpr → Prop
  /-- A type that exposes nothing is matched by any type. -/
  | hidden {type other : TypeExpr} (nothing : type.exposures = 0) : FullMatch type other
  /-- A variable is matched by itself. -/
  | var (name : String) : FullMatch (.var name) (.var name)
  /-- A function is matched by one with as many parameters, part by part. -/
  | function {params params' : List TypeExpr} {result result' : TypeExpr}
      (arity : params.length = params'.length)
      (front : ∀ pair ∈ params.zip params', FullMatch pair.1 pair.2)
      (last : FullMatch result result') :
      FullMatch (.function params result) (.function params' result')
  /-- A constructor is matched by one of the same name, in whatever module, with as many arguments
  that match. -/
  | apply {head head' : QualifiedName} {args args' : List TypeExpr}
      (name : head.name = head'.name) (arity : args.length = args'.length)
      (all : ∀ pair ∈ args.zip args', FullMatch pair.1 pair.2) :
      FullMatch (.apply head args) (.apply head' args')
  /-- A tuple is matched as far as the shorter one goes, and what is left of it exposes nothing. -/
  | tuple {elements elements' : List TypeExpr}
      (front : ∀ pair ∈ elements.zip elements', FullMatch pair.1 pair.2)
      (rest : ∀ element ∈ elements.drop elements'.length, element.exposures = 0) :
      FullMatch (.tuple elements) (.tuple elements')

/-! ## The bound -/

theorem exposuresOf_eq_zero_iff {types : List TypeExpr} :
    exposuresOf types = 0 ↔ ∀ type ∈ types, type.exposures = 0 := by
  induction types with
  | nil => simp [exposuresOf]
  | cons type types ih => simp [exposuresOf, ih]

theorem similaritySum_self {types : List TypeExpr}
    (all : ∀ type ∈ types, type.similarity type = 10 * type.exposures) :
    similaritySum types types = 10 * exposuresOf types := by
  induction types with
  | nil => rfl
  | cons type types ih =>
      obtain ⟨first, rest⟩ := List.forall_mem_cons.mp all
      rw [similaritySum, exposuresOf, first, ih rest, Nat.mul_add]

/-- Every variable and constructor outside records adds ten to the similarity of a type to
itself. -/
theorem similarity_self (type : TypeExpr) : type.similarity type = 10 * type.exposures := by
  induction type with
  | function params result front last =>
      rw [similarity, if_pos rfl, similaritySum_self front, last, exposures, Nat.mul_add]
  | var name => exact compareNames_self name
  | apply head args all =>
      rw [similarity, if_pos rfl, compareNames_self, similaritySum_self all, exposures, Nat.mul_add]
  | tuple elements all => exact similaritySum_self all
  | record fields extension _ => rfl
  | foreign text => rfl

theorem similarity_le (type other : TypeExpr) : type.similarity other ≤ 10 * type.exposures :=
  similarity_self type ▸ similarity_le_self type other

theorem similaritySum_le (types others : List TypeExpr) :
    similaritySum types others ≤ 10 * exposuresOf types := by
  rw [← similaritySum_self fun type _ => similarity_self type]
  exact similaritySum_le_self (fun type _ => similarity_le_self type) others

/-! ## Where the bound is reached -/

theorem compareNames_eq_ten_iff {a b : String} : compareNames a b = 10 ↔ a = b := by
  unfold compareNames
  split
  · simp [*]
  · rename_i different
    split <;> simp [different]

/-- A sum reaches its bound when every pair does and nothing is lost after the last pair. -/
theorem similaritySum_eq_iff {types others : List TypeExpr} :
    similaritySum types others = 10 * exposuresOf types ↔
      (∀ pair ∈ types.zip others, pair.1.similarity pair.2 = 10 * pair.1.exposures) ∧
        ∀ type ∈ types.drop others.length, type.exposures = 0 := by
  induction types generalizing others with
  | nil => simp [similaritySum, exposuresOf]
  | cons type types ih =>
      cases others with
      | nil =>
          simp only [similaritySum, List.zip_nil_right, List.not_mem_nil, false_implies,
            implies_true, true_and, List.length_nil, List.drop_zero, ← exposuresOf_eq_zero_iff]
          omega
      | cons other others =>
          have first := similarity_le type other
          have rest := similaritySum_le types others
          simp only [similaritySum, exposuresOf, List.zip_cons_cons, List.forall_mem_cons,
            List.length_cons, List.drop_succ_cons, and_assoc]
          rw [← ih]
          omega

theorem similaritySum_eq_of_pairs {types others : List TypeExpr}
    (arity : types.length = others.length)
    (pairs : ∀ pair ∈ types.zip others, pair.1.similarity pair.2 = 10 * pair.1.exposures) :
    similaritySum types others = 10 * exposuresOf types :=
  similaritySum_eq_iff.mpr ⟨pairs, by simp [← arity]⟩

theorem FullMatch.similarity_eq {type other : TypeExpr} (full : FullMatch type other) :
    type.similarity other = 10 * type.exposures := by
  induction full with
  | @hidden type other nothing =>
      have bound := similarity_le type other
      omega
  | var name => exact compareNames_self name
  | function arity _ _ front last =>
      rw [similarity, if_pos arity, similaritySum_eq_of_pairs arity front, last, exposures,
        Nat.mul_add]
  | apply name arity _ all =>
      rw [similarity, if_pos arity, similaritySum_eq_of_pairs arity all,
        compareNames_eq_ten_iff.mpr name, exposures, Nat.mul_add]
  | tuple _ rest front => exact similaritySum_eq_iff.mpr ⟨front, rest⟩

/-- A type whose bound is no similarity at all exposes nothing. -/
theorem FullMatch.of_eq_zero {type other : TypeExpr} (equal : 0 = 10 * type.exposures) :
    FullMatch type other :=
  .hidden (by omega)

theorem FullMatch.of_similarity_eq {type other : TypeExpr}
    (equal : type.similarity other = 10 * type.exposures) : FullMatch type other := by
  induction type generalizing other with
  | function params result front last =>
      cases other with
      | function params' result' =>
          rw [similarity] at equal
          split at equal
          · rename_i arity
            -- Both summands are at their bounds, since together they are.
            have outer := similarity_le result result'
            have inner := similaritySum_le params params'
            rw [exposures, Nat.mul_add] at equal
            have sum : similaritySum params params' = 10 * exposuresOf params := by omega
            obtain ⟨pairs, _⟩ := similaritySum_eq_iff.mp sum
            exact .function arity (forall_pairs_imp front pairs) (last (by omega))
          · exact .of_eq_zero equal
      | _ => exact .of_eq_zero equal
  | var name =>
      cases other with
      | var name' =>
          obtain rfl := compareNames_eq_ten_iff.mp equal
          exact .var name
      | _ => exact .of_eq_zero equal
  | apply head args all =>
      cases other with
      | apply head' args' =>
          rw [similarity] at equal
          split at equal
          · rename_i arity
            have outer := compareNames_le head.name head'.name
            have inner := similaritySum_le args args'
            rw [compareNames_self] at outer
            rw [exposures, Nat.mul_add] at equal
            have sum : similaritySum args args' = 10 * exposuresOf args := by omega
            obtain ⟨pairs, _⟩ := similaritySum_eq_iff.mp sum
            exact .apply (compareNames_eq_ten_iff.mp (by omega)) arity
              (forall_pairs_imp all pairs)
          · exact .of_eq_zero equal
      | _ => exact .of_eq_zero equal
  | tuple elements all =>
      cases other with
      | tuple elements' =>
          obtain ⟨pairs, rest⟩ := similaritySum_eq_iff.mp equal
          exact .tuple (forall_pairs_imp all pairs) rest
      | _ => exact .of_eq_zero equal
  | record fields extension _ => exact .hidden rfl
  | foreign text => exact .hidden rfl

theorem similarity_eq_iff {type other : TypeExpr} :
    type.similarity other = 10 * type.exposures ↔ FullMatch type other :=
  ⟨FullMatch.of_similarity_eq, FullMatch.similarity_eq⟩

instance (type other : TypeExpr) : Decidable (FullMatch type other) :=
  decidable_of_iff _ similarity_eq_iff

/-- The similarity of a type to itself is ten for each variable and constructor that it exposes.
The similarity of two types is no more than either of them allows in this way, and it is all that
the first one allows exactly when everything that it exposes is met again in the second. -/
theorem similarity_bounds (type other : TypeExpr) :
    type.similarity type = 10 * type.exposures ∧
      0 ≤ type.similarity other ∧
      type.similarity other ≤ 10 * min type.exposures other.exposures ∧
      (type.similarity other = 10 * type.exposures ↔ FullMatch type other) := by
  have one := similarity_le type other
  have two := similarity_le other type
  rw [similarity_comm other type] at two
  exact ⟨similarity_self type, Nat.zero_le _, by omega, similarity_eq_iff⟩

/-- A tuple may be cut short before a record, but not before a variable. -/
example :
    FullMatch (.tuple [.var "a", .record [] none]) (.tuple [.var "a"]) ∧
      ¬ FullMatch (.tuple [.var "a", .var "b"]) (.tuple [.var "a"]) := by decide

end TypeExpr
end Signature
end SignatureSearch
