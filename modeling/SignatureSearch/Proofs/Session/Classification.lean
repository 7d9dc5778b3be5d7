import SignatureSearch.Proofs.Search.OwnSignature
import SignatureSearch.Proofs.Session.Limits
import SignatureSearch.Proofs.Signature.BareName
import SignatureSearch.Proofs.Signature.Progress

/-!
# What a query searches

A query searches names when it is refused or is the name of a variable in parentheses, and types in
every other case.  A refused query is looked for as it stands, and a name without its parentheses.
-/

namespace SignatureSearch

namespace Search

open Catalog (Entry)
open Signature (TypeExpr)

theorem classify_eq_name_iff {query : TypeExpr} :
    classify query = .name ↔ ∃ name, query = .var name := by
  cases query <;> simp [classify]

/-- A blank text has no answers. -/
theorem nameSearch_of_blank {needle : String} (blank : Text.isAllBlank needle.toList = true) :
    (fun includeTypes => nameSearch includeTypes needle) = fun _ _ => [] := by
  funext includeTypes entries
  rw [nameSearch, needleOf_eq_nil_iff.mpr blank]
  rfl

end Search

namespace Session

open Catalog (Entry)
open Search (Mode Match)
open Signature (BareName parse parse?)

/-- However a query is asked, it has one mode and finds one list of matches, which depends on the
entries and on whether types count as texts; a limit cuts it. -/
structure Finds (query : String) (mode : Mode) (found : Bool → List Entry → List Match) :
    Prop where
  /-- The parsed query has the mode. -/
  classified : Search.classify (parse query) = mode
  /-- All matches among entries are found. -/
  ranked : ∀ entries, Search.rank query entries = .ok (found true entries)
  /-- A session ranks the matches among the entries that it holds. -/
  session : ∀ {session : Session}, Reachable session → ∀ includeTypes limit,
    (session.rank includeTypes limit query).1 =
      .ok
        { query, mode
          found := Search.cut limit (found includeTypes session.catalog.entries)
          candidates := session.catalog.entries.length }

/-- The answers to the parsed query decide what is found. -/
theorem finds_of_answers {query : String} {found : Bool → List Entry → List Match}
    (answered : ∀ includeTypes entries,
      Search.answers includeTypes (parse query) entries = .ok (found includeTypes entries)) :
    Finds query (Search.classify (parse query)) found where
  classified := rfl
  ranked entries := answered true entries
  session reachable includeTypes limit :=
    fst_rank_cut reachable.faithful (answered includeTypes _) limit

/-- A query that stands for a variable searches names for that of the variable. -/
theorem finds_name {query name : String} (parsed : parse query = .var name) :
    Finds query .name fun includeTypes => Search.nameSearch includeTypes name := by
  have answered : ∀ includeTypes entries, Search.answers includeTypes (parse query) entries =
      .ok (Search.nameSearch includeTypes name entries) := by
    intro includeTypes entries
    rw [parsed]
    rfl
  have finds := finds_of_answers answered
  rwa [parsed] at finds

/-- A query that is accepted as a type other than a variable searches types for it. -/
theorem finds_type {query : String} {type : Signature.TypeExpr} (accepted : parse? query = .ok type)
    (structured : Search.classify type = .type) :
    Finds query .type fun _ => Search.scored type.canonical := by
  have parsed := Signature.parse_of_accepted accepted
  have answered : ∀ includeTypes entries, Search.answers includeTypes (parse query) entries =
      .ok (Search.scored type.canonical entries) := by
    intro includeTypes entries
    rw [parsed, Search.answers_of_type structured, Search.typeSearch_of_accepted accepted]
  have finds := finds_of_answers answered
  rwa [parsed, structured] at finds

/-- A query is classified as a name exactly when it stands for a variable. -/
theorem classify_parse_eq_name_iff {query : String} :
    Search.classify (parse query) = .name ↔
      (∃ error, parse? query = .error error) ∨ ∃ name, BareName query name := by
  rw [Search.classify_eq_name_iff]
  simp only [Signature.parse_eq_var_iff]
  constructor
  · rintro ⟨name, ⟨refused, -⟩ | bare⟩
    · exact .inl refused
    · exact .inr ⟨name, bare⟩
  · rintro (refused | ⟨name, bare⟩)
    · exact ⟨query, .inl ⟨refused, rfl⟩⟩
    · exact ⟨name, .inr bare⟩

/-- **The mode of a query.**  A query searches names exactly when it is refused or is a name in
parentheses, for all of it or for the name alone; a blank query finds nothing; every other query is
accepted as a type and is compared with the types of the entries. -/
theorem query_classified (query : String) :
    (Search.classify (parse query) = .name ↔
      (∃ error, parse? query = .error error) ∨ ∃ name, BareName query name) ∧
    (∀ name, BareName query name →
      Finds query .name fun includeTypes => Search.nameSearch includeTypes name) ∧
    ((∃ error, parse? query = .error error) →
      Finds query .name fun includeTypes => Search.nameSearch includeTypes query) ∧
    (Text.isAllBlank query.toList = true → Finds query .name fun _ _ => []) ∧
    (¬ ((∃ error, parse? query = .error error) ∨ ∃ name, BareName query name) →
      ∃ type found, parse? query = .ok type ∧
        (∀ entries, Search.typeSearch type entries = .ok (found entries)) ∧
        Finds query .type fun _ => found) := by
  refine ⟨classify_parse_eq_name_iff, ?_, ?_, ?_, ?_⟩
  · intro name bare
    exact finds_name (Signature.parse_eq_var_iff.mpr (.inr bare))
  · rintro ⟨error, refused⟩
    exact finds_name (Signature.parse_of_refused refused)
  · intro blank
    cases read : parse? query with
    | ok type =>
        rw [Signature.not_blank_of_accepted read] at blank
        cases blank
    | error error =>
        have finds := finds_name (Signature.parse_of_refused read)
        rwa [Search.nameSearch_of_blank blank] at finds
  · intro neither
    cases read : parse? query with
    | error error => exact absurd (.inl ⟨error, read⟩) neither
    | ok type =>
        have structured : Search.classify type = .type := by
          rw [← classify_parse_eq_name_iff, Signature.parse_of_accepted read] at neither
          cases mode : Search.classify type with
          | name => exact absurd mode neither
          | type => rfl
        exact ⟨type, _, rfl, Search.typeSearch_of_accepted read, finds_type read structured⟩

/-- A name in parentheses is looked for without them, and two words are looked for as they stand. -/
theorem query_classified_map :
    Finds " ((map)) " .name (fun includeTypes => Search.nameSearch includeTypes "map") ∧
      Finds "map filter" .name
        fun includeTypes => Search.nameSearch includeTypes "map filter" := by
  have accepted : parse? " ((map)) " = .ok (.var "map") :=
    Signature.parse?_eq_of_parseWithin (by decide +kernel)
  have refused : parse? "map filter" =
      .error ⟨.argumentsRefused, 0, "map filter"⟩ :=
    Signature.parse?_eq_of_parseWithin (by decide +kernel)
  exact ⟨(query_classified " ((map)) ").2.1 "map" (Signature.parse?_eq_var_iff.mp accepted),
    (query_classified "map filter").2.2.1 ⟨_, refused⟩⟩

end Session
end SignatureSearch
