import SignatureSearch.Proofs.Signature.Subtrees
import SignatureSearch.Proofs.Signature.Symmetry

/-!
# Distance zero

The types between which no penalty is due are those that have the same variables and constructors
at the same places, as far as they are compared: the modules of constructors without arguments are
not, and neither is what a longer tuple has more than a shorter one.  A record is at a distance from
every type, itself included.
-/

namespace SignatureSearch
namespace Signature
namespace TypeExpr

/-- Two types agree in everything that is compared. -/
inductive Coincide : TypeExpr → TypeExpr → Prop
  /-- A variable coincides with itself. -/
  | var (name : String) : Coincide (.var name) (.var name)
  /-- Functions with as many parameters coincide part by part. -/
  | function {params params' : List TypeExpr} {result result' : TypeExpr}
      (arity : params.length = params'.length)
      (front : ∀ pair ∈ params.zip params', Coincide pair.1 pair.2)
      (last : Coincide result result') :
      Coincide (.function params result) (.function params' result')
  /-- Constructors without arguments coincide when they have the same name, in whatever modules. -/
  | bare {head head' : QualifiedName} (name : head.name = head'.name) :
      Coincide (.apply head []) (.apply head' [])
  /-- Constructors with as many arguments, and at least one, coincide when they have the same name
  in the same module and their arguments coincide. -/
  | apply {head head' : QualifiedName} {args args' : List TypeExpr} (nonempty : 0 < args.length)
      (arity : args.length = args'.length) (home : head.home = head'.home)
      (name : head.name = head'.name) (all : ∀ pair ∈ args.zip args', Coincide pair.1 pair.2) :
      Coincide (.apply head args) (.apply head' args')
  /-- Tuples coincide as far as the shorter one goes. -/
  | tuple {elements elements' : List TypeExpr}
      (all : ∀ pair ∈ elements.zip elements', Coincide pair.1 pair.2) :
      Coincide (.tuple elements) (.tuple elements')

/-! ## No penalty -/

theorem namePenalty_eq_zero_iff {mismatch : Nat} (positive : 0 < mismatch) {a b : String} :
    namePenalty mismatch a b = 0 ↔ a = b := by
  unfold namePenalty
  split
  · simp [*]
  · rename_i different
    have penalty := positive.ne'
    split <;> simp [different, penalty]

theorem gap_eq_zero_iff {m n : Nat} : gap m n = 0 ↔ m = n := by
  unfold gap
  omega

theorem distanceSum_eq_zero_iff {types others : List TypeExpr} :
    distanceSum types others = 0 ↔ ∀ pair ∈ types.zip others, pair.1.distance pair.2 = 0 := by
  induction types generalizing others with
  | nil => simp [distanceSum]
  | cons type types ih =>
      cases others with
      | nil => simp [distanceSum]
      | cons other others =>
          rw [distanceSum, Nat.add_eq_zero_iff, ih, List.zip_cons_cons, List.forall_mem_cons]

theorem distance_function_eq_zero_iff {params params' : List TypeExpr} {result result' : TypeExpr} :
    (function params result).distance (function params' result') = 0 ↔
      params.length = params'.length ∧
        (∀ pair ∈ params.zip params', pair.1.distance pair.2 = 0) ∧
          result.distance result' = 0 := by
  rw [distance, ← distanceSum_eq_zero_iff]
  split
  · rename_i arity
    simp [arity]
  · rename_i arity
    have apart : gap params.length params'.length ≠ 0 := mt gap_eq_zero_iff.mp arity
    simp only [arity, false_and, iff_false]
    omega

/-- Modules count only where there are arguments. -/
theorem distance_apply_eq_zero_iff {head head' : QualifiedName} {args args' : List TypeExpr} :
    (apply head args).distance (apply head' args') = 0 ↔
      args.length = args'.length ∧ (0 < args.length → head.home = head'.home) ∧
        head.name = head'.name ∧ ∀ pair ∈ args.zip args', pair.1.distance pair.2 = 0 := by
  have two : 0 < 2 := by decide
  rw [distance, ← distanceSum_eq_zero_iff]
  split
  · rename_i empty
    obtain ⟨rfl, rfl⟩ : args = [] ∧ args' = [] := by simpa using empty
    simp [namePenalty_eq_zero_iff two, distanceSum]
  · rename_i notBare
    split
    · rename_i arity
      have nonempty : 0 < args.length := by
        refine List.length_pos_of_ne_nil ?_
        rintro rfl
        exact notBare ⟨rfl, by simpa using arity.symm⟩
      rw [Nat.add_eq_zero_iff, Nat.add_eq_zero_iff, namePenalty_eq_zero_iff two,
        namePenalty_eq_zero_iff two, and_iff_right arity, imp_iff_right nonempty,
        and_assoc]
    · rename_i arity
      simp [arity]

theorem Coincide.distance_eq_zero {type other : TypeExpr} (coincide : Coincide type other) :
    type.distance other = 0 := by
  induction coincide with
  | var name => exact (namePenalty_eq_zero_iff (by decide)).mpr rfl
  | function arity _ _ front last => exact distance_function_eq_zero_iff.mpr ⟨arity, front, last⟩
  | bare name => exact distance_apply_eq_zero_iff.mpr ⟨rfl, by simp, name, by simp⟩
  | apply _ arity home name _ all =>
      exact distance_apply_eq_zero_iff.mpr ⟨arity, fun _ => home, name, all⟩
  | tuple _ all => exact distanceSum_eq_zero_iff.mpr all

theorem Coincide.of_distance_eq_zero {type other : TypeExpr} (zero : type.distance other = 0) :
    Coincide type other := by
  induction type generalizing other with
  | function params result front last =>
      cases other with
      | function params' result' =>
          obtain ⟨arity, pairs, rest⟩ := distance_function_eq_zero_iff.mp zero
          exact .function arity (forall_pairs_imp front pairs) (last rest)
      | _ => cases zero
  | var name =>
      cases other with
      | var name' =>
          obtain rfl := (namePenalty_eq_zero_iff (by decide)).mp zero
          exact .var name
      | _ => cases zero
  | apply head args all =>
      cases other with
      | apply head' args' =>
          obtain ⟨arity, home, name, pairs⟩ := distance_apply_eq_zero_iff.mp zero
          cases args with
          | nil =>
              obtain rfl := List.length_eq_zero_iff.mp arity.symm
              exact .bare name
          | cons arg args =>
              have nonempty : 0 < (arg :: args).length := Nat.succ_pos _
              exact .apply nonempty arity (home nonempty) name
                (forall_pairs_imp all pairs)
      | _ => cases zero
  | tuple elements all =>
      cases other with
      | tuple elements' =>
          exact .tuple (forall_pairs_imp all (distanceSum_eq_zero_iff.mp zero))
      | _ => cases zero
  | record fields extension _ => cases other <;> cases zero
  | foreign text => cases other <;> cases zero

theorem distance_eq_zero_iff {type other : TypeExpr} :
    type.distance other = 0 ↔ Coincide type other :=
  ⟨Coincide.of_distance_eq_zero, Coincide.distance_eq_zero⟩

instance (type other : TypeExpr) : Decidable (Coincide type other) :=
  decidable_of_iff _ distance_eq_zero_iff

/-! ## A type and itself -/

/-- Whether a type expression is a record. -/
def isRecord : TypeExpr → Bool
  | record _ _ => true
  | _ => false

theorem distanceSum_self_eq_zero_iff {types : List TypeExpr}
    (all : ∀ type ∈ types, (type.distance type = 0 ↔
      type.firstForeign? = none ∧ ∀ node ∈ type.subtrees, node.isRecord = false)) :
    distanceSum types types = 0 ↔
      firstForeignOf? types = none ∧ ∀ node ∈ subtreesOf types, node.isRecord = false := by
  induction types with
  | nil => simp [distanceSum, firstForeignOf?, subtreesOf]
  | cons type types ih =>
      obtain ⟨first, rest⟩ := List.forall_mem_cons.mp all
      rw [distanceSum, Nat.add_eq_zero_iff, first, ih rest, firstForeignOf?, subtreesOf,
        Option.or_eq_none_iff, List.forall_mem_append, and_and_and_comm]

/-- A type is at no distance from itself exactly when no record stands in it. -/
theorem distance_self_eq_zero_iff (type : TypeExpr) :
    type.distance type = 0 ↔
      type.firstForeign? = none ∧ ∀ node ∈ type.subtrees, node.isRecord = false := by
  induction type with
  | function params result front last =>
      rw [distance, if_pos rfl, Nat.add_eq_zero_iff, distanceSum_self_eq_zero_iff front, last,
        firstForeign?, subtrees, Option.or_eq_none_iff, List.forall_mem_cons,
        List.forall_mem_append, and_and_and_comm]
      simp only [isRecord, true_and]
  | var name => simp [distance, namePenalty, firstForeign?, subtrees, isRecord]
  | apply head args all =>
      rw [distance_apply_eq_zero_iff, ← distanceSum_eq_zero_iff, distanceSum_self_eq_zero_iff all,
        firstForeign?, subtrees, List.forall_mem_cons]
      simp only [isRecord, implies_true, true_and]
  | tuple elements all =>
      rw [distance, distanceSum_self_eq_zero_iff all, firstForeign?, subtrees, List.forall_mem_cons]
      simp only [isRecord, true_and]
  | record fields extension _ => simp [distance, subtrees, isRecord]
  | foreign text => simp [distance, firstForeign?]

/-- No distance is negative, and types are at no distance exactly when they coincide.  A type in
which no foreign text stands is at no distance from itself exactly when no record stands in it. -/
theorem distance_zero (type other : TypeExpr) :
    0 ≤ type.distance other ∧
      (type.distance other = 0 ↔ Coincide type other) ∧
      (type.distance type = 0 ↔
        type.firstForeign? = none ∧ ∀ node ∈ type.subtrees, node.isRecord = false) :=
  ⟨Nat.zero_le _, distance_eq_zero_iff, distance_self_eq_zero_iff type⟩

/-- The module of a constructor counts as soon as the constructor has arguments. -/
example :
    Coincide (.apply ⟨"Basics", "Int"⟩ []) (.apply ⟨"", "Int"⟩ []) ∧
      ¬ Coincide (.apply ⟨"List", "List"⟩ [.var "a"]) (.apply ⟨"", "List"⟩ [.var "a"]) := by decide

end TypeExpr
end Signature
end SignatureSearch
