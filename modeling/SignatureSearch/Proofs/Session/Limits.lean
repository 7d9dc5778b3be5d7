import SignatureSearch.Proofs.Search.Order
import SignatureSearch.Proofs.Session.Reachable

/-!
# Queries with a limit

However a query is asked, it finds the same entries in the same order, and a limit cuts these off at
the end.  So a smaller limit gives the beginning of what a larger one gives, and nothing that a
limit leaves out of a search for a type is more similar than what it keeps.
-/

namespace SignatureSearch
namespace Search

open Catalog (Entry)
open Signature (TypeExpr)


theorem mem_of_mem_cut {α : Type} {limit : Option Int} {items : List α} {item : α}
    (kept : item ∈ cut limit items) : item ∈ items := by
  rcases limit with _ | count | dropped
  · exact kept
  · exact List.mem_of_mem_take kept
  · exact List.mem_of_mem_take kept

/-- A smaller limit keeps the beginning of what a larger one keeps. -/
theorem cut_isPrefix {α : Type} {few many : Nat} (le : few ≤ many) (items : List α) :
    cut (some few) items <+: cut (some many) items := by
  rw [cut_natCast, cut_natCast]
  exact List.take_prefix_take_left le

/-- A query for a type is answered by a search for it. -/
theorem answers_of_type {includeTypes : Bool} {query : TypeExpr} (type : classify query = .type)
    (entries : List Entry) : answers includeTypes query entries = typeSearch query entries := by
  cases query with
  | var name => cases type
  | _ => rfl

end Search

namespace Session

open Signature (TypeExpr)

variable {session : Session}

/-- A query is ranked by cutting what it finds. -/
theorem fst_rank_cut (faithful : session.Faithful) {includeTypes : Bool} {query : String}
    {found : List Search.Match}
    (answered : Search.answers includeTypes (Signature.parse query) session.catalog.entries =
      .ok found) (limit : Option Int) :
    (session.rank includeTypes limit query).1 =
      .ok
        { query
          mode := Search.classify (Signature.parse query)
          found := Search.cut limit found
          candidates := session.catalog.entries.length } := by
  rw [fst_rank faithful, rankingOf, answered]
  rfl

/-- What a query is answered with is what it ranks. -/
theorem fst_search_eq (faithful : session.Faithful) (limit : Option Int) (query : String) :
    ∃ ranking response,
      (session.rank session.settings.nameSearchIncludesTypes (session.limitOf limit) query).1 =
        .ok ranking ∧
      (session.search limit query).1 = .ok response ∧
      response.results = ranking.found.map (resultOf session.catalog.entries) := by
  obtain ⟨found, response, after, answered, searched, results⟩ :=
    search_spec faithful limit query
  exact ⟨_, response, fst_rank_cut faithful answered _, congrArg Prod.fst searched, results⟩

/-- What a session gives for a query under a limit is cut from one ranking. -/
structure CutsRanking (session : Session) (query : String) : Prop where
  /-- Ranked by the session under a limit, a query finds what it finds among the entries, cut to the
  limit. -/
  ranked : ∃ found, Search.rank query session.catalog.entries = .ok found ∧
    ∀ limit, ∃ ranking, (session.rank true limit query).1 = .ok ranking ∧
      ranking.found = Search.cut limit found
  /-- Without a limit that is all of it, under a limit the first so many, and under a negative limit
  all but the last so many. -/
  sliced : ∃ found, Search.rank query session.catalog.entries = .ok found ∧
    (∃ ranking, (session.rank true none query).1 = .ok ranking ∧ ranking.found = found) ∧
    (∀ count : Nat, ∃ ranking, (session.rank true (some count) query).1 = .ok ranking ∧
      ranking.found = found.take count) ∧
    ∀ dropped : Nat, 0 < dropped → ∃ ranking,
      (session.rank true (some (-dropped)) query).1 = .ok ranking ∧
      ranking.found = found.take (found.length - dropped)
  /-- Answered by the session, it shows what the session ranks as it is configured. -/
  answered : ∀ limit, ∃ ranking response,
    (session.rank session.settings.nameSearchIncludesTypes (session.limitOf limit) query).1 =
      .ok ranking ∧
    (session.search limit query).1 = .ok response ∧
    response.results = ranking.found.map (resultOf session.catalog.entries)
  /-- A smaller limit gives the beginning of a ranking. -/
  shorter : ∀ includeTypes (few many : Nat), few ≤ many → ∃ less more,
    (session.rank includeTypes (some few) query).1 = .ok less ∧
    (session.rank includeTypes (some many) query).1 = .ok more ∧ less.found <+: more.found
  /-- A smaller limit gives the beginning of an answer. -/
  shorterAnswer : ∀ few many : Nat, few ≤ many → ∃ less more,
    (session.search (some few) query).1 = .ok less ∧
    (session.search (some many) query).1 = .ok more ∧ less.results <+: more.results
  /-- What a search for a type leaves out is not more similar than what it keeps. -/
  best : ∀ includeTypes (few : Nat), Search.classify (Signature.parse query) = .type →
    ∃ canonical ranking, (Signature.parse query).normalize = .ok canonical ∧
      (session.rank includeTypes (some few) query).1 = .ok ranking ∧
      ∀ position entry, session.catalog.entries[position]? = some entry →
        (∀ listed ∈ ranking.found, listed.position ≠ position) →
        ∀ listed ∈ ranking.found,
          listed.score = some (canonical.similarity listed.entry.normalized) ∧
          canonical.similarity entry.normalized ≤ canonical.similarity listed.entry.normalized

theorem cutsRanking (faithful : session.Faithful) (query : String) :
    session.CutsRanking query where
  ranked := by
    obtain ⟨found, answered⟩ := Search.answers_parse true query session.catalog.entries
    exact ⟨found, answered, fun limit => ⟨_, fst_rank_cut faithful answered limit, rfl⟩⟩
  sliced := by
    obtain ⟨found, answered⟩ := Search.answers_parse true query session.catalog.entries
    exact ⟨found, answered, ⟨_, fst_rank_cut faithful answered none, Search.cut_none found⟩,
      fun count => ⟨_, fst_rank_cut faithful answered _, Search.cut_natCast found count⟩,
      fun dropped positive => ⟨_, fst_rank_cut faithful answered _, Search.cut_neg found positive⟩⟩
  answered limit := fst_search_eq faithful limit query
  shorter includeTypes few many le := by
    obtain ⟨found, answered⟩ := Search.answers_parse includeTypes query session.catalog.entries
    exact ⟨_, _, fst_rank_cut faithful answered _, fst_rank_cut faithful answered _,
      Search.cut_isPrefix le found⟩
  shorterAnswer few many le := by
    obtain ⟨found, answered⟩ := Search.answers_parse session.settings.nameSearchIncludesTypes query
      session.catalog.entries
    obtain ⟨_, less, ranked, searched, shown⟩ := fst_search_eq faithful (some few) query
    obtain ⟨_, more, ranked', searched', shown'⟩ := fst_search_eq faithful (some many) query
    rw [fst_rank_cut faithful answered] at ranked ranked'
    cases ranked
    cases ranked'
    refine ⟨less, more, searched, searched', ?_⟩
    rw [shown, shown']
    exact (Search.cut_isPrefix le found).map _
  best includeTypes few type := by
    have typed := Signature.firstForeign?_parse query
    have answered :
        Search.answers includeTypes (Signature.parse query) session.catalog.entries = .ok _ :=
      (Search.answers_of_type type _).trans (Search.typeSearch_of_typed typed _)
    have ranks := Search.ranks_scored (Signature.parse query).canonical session.catalog.entries
    refine ⟨_, _, TypeExpr.normalize_of_no_foreign typed, fst_rank_cut faithful answered _, ?_⟩
    intro position entry here omitted listed kept
    exact ⟨(ranks.measured listed (List.mem_of_mem_take kept)).2,
      ranks.cut_best few here omitted listed kept⟩

/-- **Rankings are complete, in order and cut at the end.**  A search for a type ranks the entries
that are at all similar to it, and every way of asking a session gives a cut of one ranking. -/
theorem ranked_and_cut (reachable : Reachable session) :
    (∀ (query : TypeExpr) entries, query.firstForeign? = none →
      ∃ canonical found, query.normalize = .ok canonical ∧
        Search.typeSearch query entries = .ok found ∧ Search.Ranks canonical entries found) ∧
    ∀ query, session.CutsRanking query :=
  ⟨fun query entries typed =>
    ⟨_, _, TypeExpr.normalize_of_no_foreign typed, Search.typeSearch_of_typed typed entries,
      Search.ranks_scored query.canonical entries⟩,
    cutsRanking reachable.faithful⟩

/-- A session that holds a package ranks its entries for a type. -/
theorem ranked_and_cut_core :
    let basics : Docs.ModuleDocs :=
      { name := "Basics", comment := ""
        entries := .ofRows [("never", ⟨"Never -> a", ""⟩), ("ignore", ⟨"a -> ()", ""⟩)]
        named := by decide }
    let session := (start {}).after (.ask (.load "core" [basics]))
    session.catalog.entries.map Catalog.Entry.name = ["never", "ignore"] ∧
      session.CutsRanking "b -> ()" := by
  intro basics session
  have reachable : Reachable session := (Reachable.start {}).after _
  exact ⟨by decide +kernel, (ranked_and_cut reachable).2 "b -> ()"⟩

end Session
end SignatureSearch
