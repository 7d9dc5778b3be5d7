import Mathlib.Data.List.Forall2
import SignatureSearch.Proofs.Signature.Exactness

/-!
# Types after a constructor

When types are written after the name of a constructor, one after another, they are its arguments
exactly when each of them is an atom.  A type that is more than an atom begins with an atom that
writes another type, and an atom is recognised wherever it stands, so no such type is taken for one
argument.
-/

namespace SignatureSearch
namespace Signature

open Grammar

namespace Grammar

/-! ## How a type begins -/

/-- A parameter is smaller than its function. -/
theorem sizeOf_lt_absorbed (first last : TypeExpr) (more : List TypeExpr) :
    sizeOf first < sizeOf (absorbed (first :: more) last) := by
  cases last <;> simp only [absorbed, List.cons_append, TypeExpr.function.sizeOf_spec,
    List.cons.sizeOf_spec] <;> omega

/-- A constructor is smaller than the constructor with arguments. -/
theorem sizeOf_lt_apply (head : QualifiedName) (arg : TypeExpr) (args : List TypeExpr) :
    sizeOf (TypeExpr.apply head []) < sizeOf (TypeExpr.apply head (arg :: args)) := by
  cases args <;> simp only [TypeExpr.apply.sizeOf_spec, List.nil.sizeOf_spec,
    List.cons.sizeOf_spec] <;> omega

/-- An application begins with an atom, which is all of it or writes a smaller type. -/
theorem DerivesApplication.begins {word : List Lexeme} {type : TypeExpr}
    (derives : DerivesApplication word type) :
    ∃ front back head, word = front ++ back ∧ DerivesAtom front head ∧
      (back = [] ∧ head = type ∨ sizeOf head < sizeOf type) := by
  cases derives with
  | bare atom => exact ⟨word, [], type, (List.append_nil word).symm, atom, .inl ⟨rfl, rfl⟩⟩
  | @applied front back head arg args constructor _ _ =>
      exact ⟨front, back, .apply head [], rfl, constructor, .inr (sizeOf_lt_apply head arg args)⟩

/-- A type begins with an atom, which is all of it or writes a smaller type. -/
theorem DerivesType.begins {word : List Lexeme} {type : TypeExpr}
    (derives : DerivesType word type) :
    ∃ front back head, word = front ++ back ∧ DerivesAtom front head ∧
      (back = [] ∧ head = type ∨ sizeOf head < sizeOf type) := by
  cases derives with
  | alone part => exact part.begins
  | @function _ tail first last middle part _ =>
      obtain ⟨front, back, head, rfl, atom, size⟩ := part.begins
      have larger := sizeOf_lt_absorbed first last middle
      refine ⟨front, back ++ tail, head, List.append_assoc front back tail, atom, .inr ?_⟩
      rcases size with ⟨-, rfl⟩ | smaller
      · exact larger
      · exact Nat.lt_trans smaller larger

/-- A type that starts with an atom of the same type is that atom, whatever follows it. -/
theorem DerivesType.atom_of_prefix {word front rest more : List Lexeme} {type : TypeExpr}
    (derives : DerivesType word type) (atom : DerivesAtom front type)
    (same : front ++ rest = word ++ more) : DerivesAtom word type ∧ rest = more := by
  obtain ⟨start, back, head, rfl, first, size⟩ := derives.begins
  rw [List.append_assoc] at same
  obtain ⟨rfl, left⟩ := atom.prefix_unique first same
  rcases size with ⟨rfl, -⟩ | smaller
  · rw [List.append_nil]
    exact ⟨first, left⟩
  · exact absurd smaller (Nat.lt_irrefl _)

/-! ## Types one after another -/

theorem derivesArguments_cons_iff {word : List Lexeme} {arg : TypeExpr} {args : List TypeExpr} :
    DerivesArguments word (arg :: args) ↔
      ∃ front back, word = front ++ back ∧ DerivesAtom front arg ∧ DerivesArguments back args := by
  constructor
  · rintro ⟨⟩
    exact ⟨_, _, rfl, ‹_›, ‹_›⟩
  · rintro ⟨front, back, rfl, head, tail⟩
    exact .cons head tail

/-- Types one after another are read as arguments when each of them is an atom. -/
theorem derivesArguments_flatten_iff {words : List (List Lexeme)} {types : List TypeExpr}
    (written : List.Forall₂ DerivesType words types) :
    DerivesArguments words.flatten types ↔ List.Forall₂ DerivesAtom words types := by
  induction written with
  | nil => exact iff_of_true .nil .nil
  | @cons word type words types derives others ih =>
      rw [List.flatten_cons, derivesArguments_cons_iff, List.forall₂_cons, ← ih]
      constructor
      · rintro ⟨front, back, same, head, tail⟩
        obtain ⟨atom, rfl⟩ := derives.atom_of_prefix head same.symm
        exact ⟨atom, tail⟩
      · rintro ⟨head, tail⟩
        exact ⟨word, words.flatten, rfl, head, tail⟩

/-! ## After a constructor -/

/-- Only a constructor before its arguments derives an applied type, apart from an atom. -/
theorem DerivesType.applied {word : List Lexeme} {head : QualifiedName} {arg : TypeExpr}
    {args : List TypeExpr} (derives : DerivesType word (.apply head (arg :: args))) :
    DerivesAtom word (.apply head (arg :: args)) ∨
      ∃ front back, word = front ++ back ∧ DerivesAtom front (.apply head []) ∧
        DerivesArguments back (arg :: args) := by
  generalize shape : TypeExpr.apply head (arg :: args) = type at derives
  cases derives with
  | alone part =>
      subst shape
      cases part with
      | bare atom => exact .inl atom
      | applied constructor _ arguments => exact .inr ⟨_, _, rfl, constructor, arguments⟩
  | function _ _ => exact absurd shape.symm (absorbed_ne rfl)

/-- Types after a constructor are its arguments exactly when each of them is an atom. -/
theorem derivesType_apply_iff {front : List Lexeme} {words : List (List Lexeme)}
    {head : QualifiedName} {types : List TypeExpr}
    (constructor : DerivesAtom front (.apply head [])) (notUnit : TypeExpr.apply head [] ≠ .unit)
    (written : List.Forall₂ DerivesType words types) :
    DerivesType (front ++ words.flatten) (.apply head types) ↔
      List.Forall₂ DerivesAtom words types := by
  rw [← derivesArguments_flatten_iff written]
  cases types with
  | nil =>
      obtain rfl := List.forall₂_nil_right_iff.mp written
      rw [List.flatten_nil, List.append_nil]
      exact iff_of_true (.alone (.bare constructor)) .nil
  | cons type types =>
      constructor
      · intro derives
        rcases derives.applied with atom | ⟨start, back, same, first, arguments⟩
        · -- An atom of the applied type would be the constructor without arguments.
          obtain ⟨sameType, -⟩ := atom.prefix_unique constructor (List.append_nil _)
          cases sameType
        · obtain ⟨-, rfl⟩ := first.prefix_unique constructor same.symm
          exact arguments
      · intro arguments
        exact .alone (.applied constructor notUnit arguments)

end Grammar
end Signature
end SignatureSearch
