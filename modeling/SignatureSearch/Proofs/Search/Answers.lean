import SignatureSearch.Proofs.Signature.CanonicalForm
import SignatureSearch.Proofs.Text.Folding
import SignatureSearch.Search.Ranking

/-!
# Which entries answer a query

The entries that a name search and a type search return, each at its own position: membership alone,
whatever the order in which they are returned.
-/

namespace SignatureSearch
namespace Search

open Catalog (Entry)
open Signature (TypeExpr)

variable {entries : List Entry} {found : Match}

/-- Nothing is searched for exactly when the text is blank. -/
theorem needleOf_eq_nil_iff {needle : String} :
    needleOf needle = [] ↔ Text.isAllBlank needle.toList = true := by
  rw [needleOf, Text.foldCase_eq_nil_iff, Text.trim_eq_nil_iff]

/-- A text that is shown as a type is found in it. -/
theorem typeHas_typeText (entry : Entry) : typeHas (needleOf entry.typeText) entry = true := by
  rw [typeHas, Text.occurs_iff]
  exact Text.foldCase_part (Text.trim_part _)

theorem mem_nameSearch_iff {includeTypes : Bool} {needle : String} :
    found ∈ nameSearch includeTypes needle entries ↔
      needleOf needle ≠ [] ∧ entries[found.position]? = some found.entry ∧
        nameMatches includeTypes (needleOf needle) found.entry = true ∧ found.score = none := by
  obtain ⟨position, entry, score⟩ := found
  unfold nameSearch
  by_cases empty : needleOf needle = []
  · simp [empty]
  · rw [if_neg (by simpa using empty), List.mem_filterMap]
    constructor
    · rintro ⟨⟨listed, place⟩, member, kept⟩
      rw [List.mem_zipIdx_iff_getElem?] at member
      by_cases answers : nameMatches includeTypes (needleOf needle) listed = true
      · simp only [answers, if_true, Option.some.injEq, Match.mk.injEq] at kept
        obtain ⟨rfl, rfl, rfl⟩ := kept
        exact ⟨empty, member, answers, rfl⟩
      · simp [answers] at kept
    · rintro ⟨-, member, answers, rfl⟩
      exact ⟨(entry, position), List.mem_zipIdx_iff_getElem?.mpr member, by simp_all⟩

theorem mem_scored_iff {query : TypeExpr} :
    found ∈ scored query entries ↔
      entries[found.position]? = some found.entry ∧
        0 < query.similarity found.entry.normalized ∧
          found.score = some (query.similarity found.entry.normalized) := by
  obtain ⟨position, entry, score⟩ := found
  unfold scored
  rw [List.mem_mergeSort, List.mem_filterMap]
  constructor
  · rintro ⟨⟨listed, place⟩, member, kept⟩
    rw [List.mem_zipIdx_iff_getElem?] at member
    by_cases positive : 0 < query.similarity listed.normalized
    · simp only [positive, if_true, Option.some.injEq, Match.mk.injEq] at kept
      obtain ⟨rfl, rfl, rfl⟩ := kept
      exact ⟨member, positive, rfl⟩
    · simp [positive] at kept
  · rintro ⟨member, positive, measured⟩
    change score = some (query.similarity entry.normalized) at measured
    subst measured
    exact ⟨(entry, position), List.mem_zipIdx_iff_getElem?.mpr member, if_pos positive⟩

/-- A type is searched for in its canonical form. -/
theorem typeSearch_of_typed {query : TypeExpr} (typed : query.firstForeign? = none)
    (entries : List Entry) : typeSearch query entries = .ok (scored query.canonical entries) := by
  rw [typeSearch, TypeExpr.normalize_of_no_foreign typed]
  rfl

/-- The text of a variable is searched for. -/
theorem rank_of_var {query name : String} (parsed : Signature.parse query = .var name)
    (entries : List Entry) : rank query entries = .ok (nameSearch true name entries) := by
  rw [rank, parsed]
  rfl

/-- Any other type is compared with the types of the entries. -/
theorem rank_of_ne_var {query : String} (structured : ∀ name, Signature.parse query ≠ .var name)
    (entries : List Entry) : rank query entries = typeSearch (Signature.parse query) entries := by
  rw [rank]
  cases parsed : Signature.parse query with
  | var name => exact absurd parsed (structured name)
  | _ => rfl

/-! ## Where the entries are -/

/-- Every match tells where its entry is. -/
def Located (entries : List Entry) (listed : List Match) : Prop :=
  ∀ own ∈ listed, entries[own.position]? = some own.entry

theorem located_typeSearch {query : TypeExpr} {listed : List Match}
    (answered : typeSearch query entries = .ok listed) : Located entries listed := by
  rw [typeSearch] at answered
  cases canonical : query.normalize with
  | error error =>
      rw [canonical] at answered
      cases answered
  | ok type =>
      rw [canonical] at answered
      cases answered
      exact fun own member => (mem_scored_iff.mp member).1

theorem located_answers {includeTypes : Bool} {query : TypeExpr} {listed : List Match}
    (answered : answers includeTypes query entries = .ok listed) : Located entries listed := by
  cases query with
  | var name =>
      cases answered
      exact fun own member => (mem_nameSearch_iff.mp member).2.1
  | _ => exact located_typeSearch answered

end Search
end SignatureSearch
