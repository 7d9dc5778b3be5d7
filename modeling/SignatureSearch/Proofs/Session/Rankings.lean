import SignatureSearch.Proofs.Session.Agreement
import SignatureSearch.Proofs.Signature.CanonicalForm
import SignatureSearch.Proofs.Signature.Exactness
import SignatureSearch.Proofs.Signature.WellFormed

/-!
# Every query is ranked

A query is a type or stands for itself as a variable, so there is nothing in it that ranking could
refuse.  Whatever has been worked out before, ranking a query therefore succeeds, and this file says
all that it does to the session.
-/

namespace SignatureSearch

namespace Search

open Catalog (Entry Slot)

variable (includeTypes : Bool) (query : String)

theorem answers_parse (entries : List Entry) :
    ∃ found, answers includeTypes (Signature.parse query) entries = .ok found := by
  have typed := Signature.TypeExpr.normalize_of_no_foreign (Signature.firstForeign?_parse query)
  cases parsed : Signature.parse query with
  | var name => exact ⟨_, rfl⟩
  | _ =>
      rw [parsed] at typed
      exact ⟨_, congrArg (Except.map fun canonical => scored canonical entries) typed⟩

theorem lookup_parse (slots : List Slot) :
    ∃ looked, lookup includeTypes (Signature.parse query) slots = .ok looked := by
  have typed := Signature.TypeExpr.normalize_of_no_foreign (Signature.firstForeign?_parse query)
  cases parsed : Signature.parse query with
  | var name => exact ⟨_, rfl⟩
  | _ =>
      rw [parsed] at typed
      exact ⟨_, congrArg (Except.map fun canonical => lookupType canonical slots) typed⟩

end Search

namespace Session

/-- A query searches what a mode says. -/
def asks (mode : Search.Mode) (query : String) : Bool :=
  Search.classify (Signature.parse query) = mode

variable (session : Session) (includeTypes : Bool) (limit : Option Int) (query : String)

/-- Everything that ranking a query does. -/
theorem rank_spec :
    ∃ found slots,
      Search.lookup includeTypes (Signature.parse query) session.catalog.slots =
        .ok (found, slots) ∧
      (session.rank includeTypes limit query).1 =
        .ok
          { query
            mode := Search.classify (Signature.parse query)
            found := Search.cut limit found
            candidates := session.catalog.size } ∧
      (session.rank includeTypes limit query).2.catalog = { session.catalog with slots } ∧
      (session.rank includeTypes limit query).2.settings = session.settings ∧
      (session.rank includeTypes limit query).2.turns = session.turns ∧
      (session.rank includeTypes limit query).2.tally =
        { session.tally with
          parseFallbacks := session.tally.parseFallbacks
            + (Signature.outcome query).error?.toList.length
            + (Catalog.discoveries session.catalog.slots slots).length }.onQueries
          (fun count => { count with ok := count.ok + 1, timed := count.timed + 1 })
          (Search.classify (Signature.parse query)) := by
  obtain ⟨⟨found, slots⟩, looked⟩ :=
    Search.lookup_parse includeTypes query session.catalog.slots
  refine ⟨found, slots, looked, ?_⟩
  rw [Signature.parse] at looked
  rw [rank, looked]
  exact ⟨rfl, rfl, rfl, rfl, rfl⟩

theorem rankConfigured_succeeds :
    ∃ ranking after, session.rankConfigured limit query = (.ok ranking, after) ∧
      ranking.query = query := by
  obtain ⟨found, slots, -, ranked, -⟩ :=
    session.rank_spec session.settings.nameSearchIncludesTypes (session.limitOf limit) query
  exact ⟨_, _, Prod.ext ranked rfl, rfl⟩

/-- A query is answered with what the entries answer, cut to the limit. -/
theorem search_spec {session : Session} (faithful : session.Faithful) (limit : Option Int)
    (query : String) :
    ∃ found response after,
      Search.answers session.settings.nameSearchIncludesTypes (Signature.parse query)
        session.catalog.entries = .ok found ∧
      session.search limit query = (.ok response, after) ∧
      response.results =
        (Search.cut (session.limitOf limit) found).map (resultOf session.catalog.entries) := by
  obtain ⟨found, answered⟩ := Search.answers_parse session.settings.nameSearchIncludesTypes query
    session.catalog.entries
  have ranked := fst_rank faithful session.settings.nameSearchIncludesTypes
    (session.limitOf limit) query
  have agree := agree_rankConfigured faithful limit query
  rw [rankingOf, answered] at ranked
  rw [← rankConfigured] at ranked
  rw [search]
  generalize session.rankConfigured limit query = worked at ranked agree
  obtain ⟨result, after⟩ := worked
  cases ranked
  obtain ⟨shown, -, -⟩ :=
    showAll_spec agree.otherFaithful (Search.cut (session.limitOf limit) found)
  have entries : after.catalog.slots.map Catalog.Slot.entry = session.catalog.entries :=
    agree.entries.symm
  rw [entries] at shown
  exact ⟨found, _, _, answered, rfl, shown⟩

/-! ## What queries do one after another -/

/-- What is done to a session by running queries is made up of what each query does that is ranked,
and showing what it found, or drawing tickets, adds no query. -/
structure Composes (Did : List String → Session → Session → Prop) : Prop where
  /-- Nothing is done without a query. -/
  refl : ∀ session, Did [] session session
  /-- More queries do more. -/
  trans : ∀ {queries more first middle last}, Did queries first middle → Did more middle last →
    Did (queries ++ more) first last
  /-- A query that is ranked does its own part. -/
  ranked : ∀ session limit query, Did [query] session (session.rankConfigured limit query).2
  /-- Showing a ranking adds no query. -/
  shown : ∀ session ranking, Did [] session (session.present ranking).2
  /-- Writing a message adds no query. -/
  noted : ∀ session message, Did [] session (session.note .debug .query message)
  /-- Drawing tickets adds no query. -/
  begun : ∀ session turns, Did [] session { session with turns }

theorem map_snd_startAll (turns : Search.Turns) (queries : List String) :
    (turns.startAll queries).1.map Prod.snd = queries := by
  induction queries generalizing turns with
  | nil => rfl
  | cons query queries ih => exact congrArg (query :: ·) (ih turns.start.2)

namespace Composes

variable {Did : List String → Session → Session → Prop} (composes : Composes Did)
  (session : Session) (limit : Option Int)

include composes

theorem search (query : String) : Did [query] session (session.search limit query).2 := by
  obtain ⟨ranking, after, ranked, -⟩ := session.rankConfigured_succeeds limit query
  have first := composes.ranked session limit query
  rw [ranked] at first
  rw [Session.search, ranked]
  exact composes.trans first (composes.shown after ranking)

theorem rankAll (queries : List (Nat × String)) :
    ∃ rankings after, session.rankAll limit queries = (.ok rankings, after) ∧
      Did (queries.map Prod.snd) session after := by
  induction queries generalizing session with
  | nil => exact ⟨[], session, rfl, composes.refl session⟩
  | cons query queries ih =>
      obtain ⟨ticket, query⟩ := query
      obtain ⟨ranking, next, ranked, -⟩ := session.rankConfigured_succeeds limit query
      have first := composes.ranked session limit query
      rw [ranked] at first
      obtain ⟨rankings, after, rest, others⟩ := ih next
      refine ⟨(ticket, ranking) :: rankings, after, ?_, composes.trans first others⟩
      rw [Session.rankAll, ranked]
      dsimp only
      rw [rest]

theorem presentLatest (rankings : List (Nat × Ranking)) :
    Did [] session (session.presentLatest rankings).2 := by
  induction rankings generalizing session with
  | nil => exact composes.refl session
  | cons ranking rankings ih =>
      rw [Session.presentLatest]
      split
      · exact composes.trans (composes.shown session ranking.2) (ih _)
      · exact composes.trans (composes.noted session (staleMessage ranking.2)) (ih _)

/-- Queries that are started together do what they do one after another, also those that are
overtaken. -/
theorem searchLatest (queries : List String) :
    Did queries session (session.searchLatest limit queries).2 := by
  let started : Session := { session with turns := (session.turns.startAll queries).2 }
  have begun : Did [] session started := composes.begun session _
  obtain ⟨rankings, after, ranked, worked⟩ :=
    composes.rankAll started limit (session.turns.startAll queries).1
  rw [map_snd_startAll] at worked
  have all := composes.trans (composes.trans begun worked) (composes.presentLatest after rankings)
  rw [List.nil_append, List.append_nil] at all
  rw [Session.searchLatest]
  dsimp only
  rw [ranked]
  exact all

end Composes

end Session
end SignatureSearch
