import Mathlib.Data.List.Basic
import SignatureSearch.Proofs.Signature.Grammar

/-!
# Identifiers and dotted names

A dotted name is one or more identifiers with dots between them.  The scanner takes a name as long
as it goes on, without looking for identifiers; both views of a name are related here, and what
stands before and after its last dot is again a dotted name and an identifier.
-/

namespace SignatureSearch
namespace Signature

open Lexeme (startsName continuesName spanName)

/-- A letter or underscore, followed by letters, digits, underscores and apostrophes. -/
def IsIdentifier (text : String) : Prop :=
  ∃ c rest, text.toList = c :: rest ∧ startsName c = true ∧ ∀ d ∈ rest, continuesName d = true

theorem isIdentifier_iff {text : String} :
    (text.toList.head?.any startsName && text.toList.tail.all continuesName) = true ↔
      IsIdentifier text := by
  rw [Bool.and_eq_true, Option.any_eq_true, List.all_eq_true]
  constructor
  · rintro ⟨⟨c, first, starts⟩, all⟩
    exact ⟨c, text.toList.tail, List.eq_cons_of_mem_head? first, starts, all⟩
  · rintro ⟨c, rest, shape, starts, all⟩
    rw [shape]
    exact ⟨⟨c, rfl, starts⟩, all⟩

instance (text : String) : Decidable (IsIdentifier text) :=
  decidable_of_iff _ isIdentifier_iff

/-- Identifiers with dots between them. -/
inductive IsPath : String → Prop
  /-- The last identifier. -/
  | last {text : String} (identifier : IsIdentifier text) : IsPath text
  /-- An identifier before a dot. -/
  | step {text rest : String} (identifier : IsIdentifier text) (path : IsPath rest) :
      IsPath (text ++ "." ++ rest)

/-- Characters with which a name goes on after its first one. -/
inductive Continues : List Char → Prop
  | nil : Continues []
  /-- One more character of the same identifier. -/
  | char {c : Char} {run : List Char} (continues : continuesName c = true) (more : Continues run) :
      Continues (c :: run)
  /-- A dot and the first character of the next identifier. -/
  | dot {d : Char} {run : List Char} (starts : startsName d = true) (more : Continues run) :
      Continues ('.' :: d :: run)

/-- A name does not go on with a text. -/
def Separated (text : List Char) : Prop :=
  ∀ c ∈ text.head?, continuesName c = false ∧ c ≠ '.'

/-! ## Characters of names -/

theorem continuesName_of_startsName {c : Char} (starts : startsName c = true) :
    continuesName c = true := by
  simp only [startsName, Bool.or_eq_true] at starts
  rcases starts with letter | underscore
  · simp [continuesName, Char.isAlphanum, letter]
  · simp [continuesName, underscore]

theorem continuesName_dot : continuesName '.' = false := by decide

theorem ne_dot_of_continuesName {c : Char} (continues : continuesName c = true) : c ≠ '.' := by
  rintro rfl
  rw [continuesName_dot] at continues
  cases continues

/-! ## Paths as the scanner takes them -/

theorem Continues.of_all {run rest : List Char} (all : ∀ c ∈ run, continuesName c = true)
    (more : Continues rest) : Continues (run ++ rest) := by
  induction run with
  | nil => exact more
  | cons c run ih =>
      have ⟨first, others⟩ := List.forall_mem_cons.mp all
      exact .char first (ih others)

theorem IsPath.continues {text : String} (path : IsPath text) :
    ∃ c run, text.toList = c :: run ∧ startsName c = true ∧ Continues run := by
  induction path with
  | last identifier =>
      obtain ⟨c, rest, shape, starts, all⟩ := identifier
      refine ⟨c, rest, shape, starts, ?_⟩
      simpa using Continues.of_all all .nil
  | step identifier _ ih =>
      obtain ⟨c, rest, shape, starts, all⟩ := identifier
      obtain ⟨d, run, next, startsNext, more⟩ := ih
      refine ⟨c, rest ++ '.' :: d :: run, ?_, starts, .of_all all (.dot startsNext more)⟩
      simp [shape, next]

/-- An identifier that goes on is a path. -/
theorem Continues.isPath {run : List Char} (continues : Continues run) {c : Char}
    {front : List Char} (starts : startsName c = true)
    (all : ∀ d ∈ front, continuesName d = true) : IsPath (String.ofList (c :: (front ++ run))) := by
  induction continues generalizing c front with
  | nil => exact .last ⟨c, front, by simp, starts, all⟩
  | @char d run continues _ ih =>
      have longer : ∀ e ∈ front ++ [d], continuesName e = true := by
        intro e member
        rcases List.mem_append.mp member with before | last
        · exact all e before
        · rw [List.mem_singleton.mp last]
          exact continues
      simpa using ih starts longer
  | @dot d run startsNext _ ih =>
      have rest : IsPath (String.ofList (d :: ([] ++ run))) := ih startsNext (by simp)
      have first : IsIdentifier (String.ofList (c :: front)) := ⟨c, front, by simp, starts, all⟩
      have same : String.ofList (c :: (front ++ '.' :: d :: run)) =
          String.ofList (c :: front) ++ "." ++ String.ofList (d :: ([] ++ run)) := by
        rw [← String.toList_inj]
        simp
      rw [same]
      exact .step first rest

theorem spanName_continues (text : List Char) : Continues (spanName text).1 := by
  fun_induction spanName text with
  | case1 => exact .nil
  | case2 c continues => exact .char continues .nil
  | case3 c _ => exact .nil
  | case4 c d text both run rest found ih =>
      rw [found] at ih
      exact .dot both.2 ih
  | case5 c d text _ continues run rest found ih =>
      rw [found] at ih
      exact .char continues ih
  | case6 c d text _ _ => exact .nil

/-- The scanner takes a name as far as it goes on. -/
theorem spanName_append_of_separated {run rest : List Char} (continues : Continues run)
    (separated : Separated rest) : spanName (run ++ rest) = (run, rest) := by
  induction continues with
  | nil =>
      cases rest with
      | nil => rfl
      | cons c rest =>
          obtain ⟨stops, notDot⟩ := separated c rfl
          cases rest <;> simp [spanName, stops, notDot]
  | @char c run continues _ ih =>
      have notDot := ne_dot_of_continuesName continues
      rw [List.cons_append]
      cases whole : run ++ rest with
      | nil =>
          obtain ⟨rfl, rfl⟩ := List.append_eq_nil_iff.mp whole
          simp [spanName, continues]
      | cons d tail =>
          rw [whole] at ih
          simp [spanName, notDot, continues, ih]
  | @dot d run starts _ ih =>
      simp [spanName, starts, ih]

/-! ## The last dot -/

theorem IsIdentifier.undotted {text : String} (identifier : IsIdentifier text) :
    '.' ∉ text.toList := by
  obtain ⟨c, rest, shape, starts, all⟩ := identifier
  rw [shape]
  intro member
  rcases List.mem_cons.mp member with same | later
  · exact ne_dot_of_continuesName (continuesName_of_startsName starts) same.symm
  · exact ne_dot_of_continuesName (all '.' later) rfl

theorem IsIdentifier.ne_empty {text : String} (identifier : IsIdentifier text) : text ≠ "" := by
  rintro rfl
  obtain ⟨c, rest, shape, -⟩ := identifier
  cases shape

theorem IsPath.ne_empty {text : String} (path : IsPath text) : text ≠ "" := by
  rintro rfl
  obtain ⟨c, run, shape, -⟩ := path.continues
  cases shape

theorem IsPath.append {home name : String} (path : IsPath home) (identifier : IsIdentifier name) :
    IsPath (home ++ "." ++ name) := by
  induction path with
  | last first => exact .step first (.last identifier)
  | @step text rest first _ ih =>
      have same : text ++ "." ++ rest ++ "." ++ name = text ++ "." ++ (rest ++ "." ++ name) := by
        simp only [String.append_assoc]
      rw [same]
      exact .step first ih

/-- A path without dots is one identifier. -/
theorem IsPath.isIdentifier {text : String} (path : IsPath text) (undotted : '.' ∉ text.toList) :
    IsIdentifier text := by
  cases path with
  | last identifier => exact identifier
  | step _ _ => exact absurd (by simp) undotted

theorem splitsAtLastDot_unique {text : String} {head other : QualifiedName}
    (first : SplitsAtLastDot text head) (second : SplitsAtLastDot text other) : head = other :=
  (ofDotted_of_splits first).symm.trans (ofDotted_of_splits second)

/-- What stands after the last dot of a path is an identifier, and what stands before it, if there
is a dot, is a path. -/
theorem IsPath.splits {text : String} (path : IsPath text) {head : QualifiedName}
    (splits : SplitsAtLastDot text head) :
    IsIdentifier head.name ∧ (head.home = "" ∧ text = head.name ∨ IsPath head.home) := by
  induction path generalizing head with
  | last identifier =>
      have whole : SplitsAtLastDot _ ⟨"", _⟩ := ⟨identifier.undotted, .inl ⟨rfl, rfl⟩⟩
      obtain rfl := splitsAtLastDot_unique splits whole
      exact ⟨identifier, .inl ⟨rfl, rfl⟩⟩
  | @step text rest first path ih =>
      obtain ⟨inner, innerSplits⟩ := splitsAtLastDot_exists rest
      obtain ⟨identifier, shape⟩ := ih innerSplits
      rcases shape with ⟨-, rfl⟩ | home
      · have whole : SplitsAtLastDot (text ++ "." ++ inner.name) ⟨text, inner.name⟩ :=
          ⟨identifier.undotted, .inr rfl⟩
        obtain rfl := splitsAtLastDot_unique splits whole
        exact ⟨identifier, .inr (.last first)⟩
      · have whole : SplitsAtLastDot (text ++ "." ++ rest)
            ⟨text ++ "." ++ inner.home, inner.name⟩ := by
          refine ⟨identifier.undotted, .inr ?_⟩
          rcases innerSplits.2 with ⟨empty, -⟩ | same
          · exact absurd empty home.ne_empty
          · simp only [same, String.append_assoc]
        obtain rfl := splitsAtLastDot_unique splits whole
        exact ⟨identifier, .inr (.step first home)⟩

end Signature
end SignatureSearch
