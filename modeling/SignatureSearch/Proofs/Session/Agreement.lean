import SignatureSearch.Proofs.Search.Looking
import SignatureSearch.Session.Operation

/-!
# Sessions that agree

What a session answers depends on its entries and shelves, the tickets drawn, and two of its
settings.  Sessions agree when they have these in common and keep nothing false in their slots.  A
query leaves a session that agrees with the one before it, and sessions that agree answer alike.
-/

namespace SignatureSearch

theorem Catalog.length_entries (catalog : Catalog) : catalog.entries.length = catalog.size :=
  List.length_map _

namespace Session

open Catalog (Entry Slot)
open Search (AllFaithful Match)
open Signature (TypeExpr)

/-- Everything kept in the slots of a session is right. -/
def Faithful (session : Session) : Prop :=
  AllFaithful session.catalog.slots

theorem faithful_start (settings : Settings) : (start settings).Faithful :=
  fun _ listed => nomatch listed

/-- Two sessions have in common what their answers depend on, and keep nothing false. -/
structure Agree (session other : Session) : Prop where
  /-- They hold the same entries. -/
  entries : session.catalog.entries = other.catalog.entries
  /-- They know the same of packages. -/
  shelves : session.catalog.shelves = other.catalog.shelves
  /-- The same tickets have been drawn. -/
  turns : session.turns = other.turns
  /-- They give equally many results. -/
  maxResults : session.settings.maxResults = other.settings.maxResults
  /-- They search the same in an entry. -/
  includesTypes : session.settings.nameSearchIncludesTypes = other.settings.nameSearchIncludesTypes
  /-- The one keeps nothing false. -/
  faithful : session.Faithful
  /-- The other keeps nothing false. -/
  otherFaithful : other.Faithful

namespace Agree

variable {session other third : Session}

theorem refl (faithful : session.Faithful) : Agree session session :=
  ⟨rfl, rfl, rfl, rfl, rfl, faithful, faithful⟩

theorem symm (agree : Agree session other) : Agree other session :=
  ⟨agree.entries.symm, agree.shelves.symm, agree.turns.symm, agree.maxResults.symm,
    agree.includesTypes.symm, agree.otherFaithful, agree.faithful⟩

theorem trans (first : Agree session other) (second : Agree other third) : Agree session third :=
  ⟨first.entries.trans second.entries, first.shelves.trans second.shelves,
    first.turns.trans second.turns, first.maxResults.trans second.maxResults,
    first.includesTypes.trans second.includesTypes, first.faithful, second.otherFaithful⟩

theorem size (agree : Agree session other) : session.catalog.size = other.catalog.size := by
  rw [← Catalog.length_entries, agree.entries, Catalog.length_entries]

end Agree

/-- Two sessions differ at most in what they have counted and written. -/
structure SameWork (session other : Session) : Prop where
  /-- They have one catalogue. -/
  catalog : other.catalog = session.catalog
  /-- The same tickets have been drawn. -/
  turns : other.turns = session.turns
  /-- They are configured alike. -/
  settings : other.settings = session.settings

theorem SameWork.agree {session other : Session} (same : SameWork session other)
    (faithful : session.Faithful) : Agree session other where
  entries := by rw [same.catalog]
  shelves := by rw [same.catalog]
  turns := same.turns.symm
  maxResults := by rw [same.settings]
  includesTypes := by rw [same.settings]
  faithful := faithful
  otherFaithful := by rwa [Faithful, same.catalog]

/-! ## Working out slots -/

/-- Working out slots of the same entries keeps the agreement. -/
theorem agree_keep {session : Session} (faithful : session.Faithful) {slots : List Slot}
    (entries : slots.map Slot.entry = session.catalog.entries) (kept : AllFaithful slots) :
    Agree session (session.keep slots) :=
  ⟨entries.symm, rfl, rfl, rfl, rfl, faithful, kept⟩

/-- Working out each slot by itself keeps the agreement. -/
theorem agree_keep_map {session : Session} (faithful : session.Faithful) {f : Slot → Slot}
    (entry : ∀ slot, (f slot).entry = slot.entry)
    (keeps : ∀ slot : Slot, slot.Faithful → (f slot).Faithful) :
    Agree session (session.keep (session.catalog.slots.map f)) :=
  agree_keep faithful (Search.entries_map entry _) (Search.allFaithful_map faithful keeps)

theorem agree_warm {session : Session} (faithful : session.Faithful) :
    Agree session session.warm.2 :=
  agree_keep_map faithful Slot.entry_settle fun _ kept => kept.settle

theorem agree_inspect {session : Session} (faithful : session.Faithful) :
    Agree session session.inspect.2 := by
  rw [inspect, List.map_map, List.map_map]
  exact agree_keep_map faithful Slot.entry_view fun _ kept => kept.view

/-! ## Ranking -/

section Rank

variable {session : Session} (faithful : session.Faithful) (includeTypes : Bool)
  (limit : Option Int) (query : String)

/-- The ranking of a query among entries. -/
def rankingOf (includeTypes : Bool) (limit : Option Int) (query : String) (entries : List Entry) :
    Except TypeExpr.NotAType Ranking :=
  (Search.answers includeTypes (Signature.parse query) entries).map fun found =>
    { query
      mode := Search.classify (Signature.parse query)
      found := Search.cut limit found
      candidates := entries.length }

include faithful

/-- A query is ranked among the entries, whatever has been worked out of them. -/
theorem fst_rank :
    (session.rank includeTypes limit query).1 =
      rankingOf includeTypes limit query session.catalog.entries := by
  rw [rank, rankingOf, Signature.parse, Catalog.size, Catalog.entries, List.length_map]
  rcases Search.lookup_spec faithful includeTypes (Signature.outcome query).type with
    ⟨error, looked, answered⟩ | ⟨found, slots, looked, answered, -, -⟩
  · rw [looked, answered]
    rfl
  · rw [looked, answered]
    rfl

/-- Ranking a query changes nothing that answers depend on. -/
theorem agree_rank : Agree session (session.rank includeTypes limit query).2 := by
  rw [rank]
  rcases Search.lookup_spec faithful includeTypes (Signature.outcome query).type with
    ⟨error, looked, -⟩ | ⟨found, slots, looked, -, entries, kept⟩
  · rw [looked]
    exact SameWork.agree ⟨rfl, rfl, rfl⟩ faithful
  · rw [looked]
    exact ⟨entries.symm, rfl, rfl, rfl, rfl, faithful, kept⟩

end Rank

/-! ## Showing what was found -/

theorem entry_slotOf (slots : List Slot) (found : Match) :
    (slotOf slots found).entry =
      (slots.map Slot.entry)[found.position]?.getD found.entry := by
  rw [slotOf, List.getElem?_map]
  cases slots[found.position]? <;> rfl

theorem faithful_slotOf {slots : List Slot} (faithful : AllFaithful slots) (found : Match) :
    (slotOf slots found).Faithful := by
  rw [slotOf]
  cases listed : slots[found.position]? with
  | none => exact Slot.faithful_untouched found.entry
  | some slot => exact faithful slot (List.mem_of_getElem? listed)

/-- Keeping a slot of the same entry in its place changes no entry. -/
theorem entries_set {slots : List Slot} {found : Match} {slot : Slot}
    (same : slot.entry = (slotOf slots found).entry) :
    (slots.set found.position slot).map Slot.entry = slots.map Slot.entry := by
  rw [List.map_set, same, entry_slotOf]
  refine List.ext_getElem? fun position => ?_
  rw [List.getElem?_set]
  split
  · rename_i here
    subst here
    split
    · rename_i inside
      rw [List.getElem?_eq_getElem inside, Option.getD_some]
    · rename_i outside
      exact (List.getElem?_eq_none (by omega)).symm
  · rfl

/-- A match as a result, with the canonical form of the entry at its position. -/
def resultOf (entries : List Entry) (found : Match) : Result :=
  { entry := found.entry
    normalizedSignature := (entries[found.position]?.getD found.entry).normalizedText
    score := found.score }

/-- Matches are shown as their entries are, whatever has been worked out, and entries stay. -/
theorem showAll_spec {slots : List Slot} (faithful : AllFaithful slots) (found : List Match) :
    (showAll slots found).1 = found.map (resultOf (slots.map Slot.entry)) ∧
      (showAll slots found).2.map Slot.entry = slots.map Slot.entry ∧
      AllFaithful (showAll slots found).2 := by
  induction found generalizing slots with
  | nil => exact ⟨rfl, rfl, faithful⟩
  | cons first others ih =>
      have own := faithful_slotOf faithful first
      have kept : AllFaithful
          (slots.set first.position (slotOf slots first).readNormalized.2) := by
        intro slot member
        rcases List.mem_or_eq_of_mem_set member with inside | rfl
        · exact faithful slot inside
        · exact own.readNormalized
      have stays :
          (slots.set first.position (slotOf slots first).readNormalized.2).map Slot.entry =
            slots.map Slot.entry :=
        entries_set (slotOf slots first).entry_readNormalized
      obtain ⟨results, entries, last⟩ := ih kept
      rw [stays] at results
      have shown :
          { entry := first.entry
            normalizedSignature := (slotOf slots first).readNormalized.1.text .bare
            score := first.score : Result } = resultOf (slots.map Slot.entry) first := by
        rw [resultOf, Slot.fst_readNormalized own, entry_slotOf]
        rfl
      exact ⟨congrArg₂ List.cons shown results, entries.trans stays, last⟩

section Present

variable {session other : Session}

theorem agree_present (faithful : session.Faithful) (ranking : Ranking) :
    Agree session (session.present ranking).2 := by
  obtain ⟨-, entries, kept⟩ := showAll_spec faithful ranking.found
  exact agree_keep faithful entries kept

/-- Sessions that agree show a ranking alike. -/
theorem fst_present (agree : Agree session other) (ranking : Ranking) :
    (session.present ranking).1 = (other.present ranking).1 := by
  obtain ⟨one, -, -⟩ := showAll_spec agree.faithful ranking.found
  obtain ⟨two, -, -⟩ := showAll_spec agree.otherFaithful ranking.found
  have same : session.catalog.slots.map Slot.entry = other.catalog.slots.map Slot.entry :=
    agree.entries
  have results : (showAll session.catalog.slots ranking.found).1 =
      (showAll other.catalog.slots ranking.found).1 := by
    rw [one, two, same]
  simp only [present, results]

end Present

/-! ## What every query keeps -/

section Kept

variable {P : Session → Prop} {session : Session}

/-- What ranking and showing keep is kept by answering a query. -/
theorem kept_search
    (ranked : ∀ session limit query, P session → P (session.rankConfigured limit query).2)
    (shown : ∀ session ranking, P session → P (session.present ranking).2)
    (kept : P session) (limit : Option Int) (query : String) :
    P (session.search limit query).2 := by
  have first := ranked session limit query kept
  rw [search]
  generalize session.rankConfigured limit query = worked at first
  obtain ⟨result, after⟩ := worked
  cases result with
  | error error => exact first
  | ok ranking => exact shown after ranking first

theorem kept_rankAll
    (ranked : ∀ session limit query, P session → P (session.rankConfigured limit query).2)
    (kept : P session) (limit : Option Int) (queries : List (Nat × String)) :
    P (session.rankAll limit queries).2 := by
  induction queries generalizing session with
  | nil => exact kept
  | cons query queries ih =>
      have first := ranked session limit query.2 kept
      rw [rankAll]
      generalize session.rankConfigured limit query.2 = worked at first
      obtain ⟨result, after⟩ := worked
      cases result with
      | error error => exact first
      | ok ranking =>
          have rest := ih first
          dsimp only at rest ⊢
          generalize after.rankAll limit queries = others at rest
          obtain ⟨results, last⟩ := others
          cases results <;> exact rest

theorem kept_presentLatest (shown : ∀ session ranking, P session → P (session.present ranking).2)
    (noted : ∀ session message, P session → P (session.note .debug .query message))
    (kept : P session) (rankings : List (Nat × Ranking)) :
    P (session.presentLatest rankings).2 := by
  induction rankings generalizing session with
  | nil => exact kept
  | cons ranking rankings ih =>
      rw [presentLatest]
      split
      · exact ih (shown session ranking.2 kept)
      · exact ih (noted session _ kept)

/-- What is kept once the tickets are drawn is kept by answering queries together. -/
theorem kept_searchLatest
    (ranked : ∀ session limit query, P session → P (session.rankConfigured limit query).2)
    (shown : ∀ session ranking, P session → P (session.present ranking).2)
    (noted : ∀ session message, P session → P (session.note .debug .query message))
    (limit : Option Int) (queries : List String)
    (kept : P { session with turns := (session.turns.startAll queries).2 }) :
    P (session.searchLatest limit queries).2 := by
  rw [searchLatest]
  generalize session.turns.startAll queries = begun at kept
  obtain ⟨tickets, turns⟩ := begun
  have first := kept_rankAll ranked kept limit tickets
  dsimp only at first ⊢
  generalize { session with turns }.rankAll limit tickets = all at first
  obtain ⟨result, after⟩ := all
  cases result with
  | error error => exact first
  | ok rankings => exact kept_presentLatest shown noted first rankings

end Kept

/-! ## Queries -/

section Queries

variable {session other : Session}

theorem agree_rankConfigured (faithful : session.Faithful) (limit : Option Int)
    (query : String) : Agree session (session.rankConfigured limit query).2 :=
  agree_rank faithful _ _ _

theorem fst_rankConfigured (agree : Agree session other) (limit : Option Int) (query : String) :
    (session.rankConfigured limit query).1 = (other.rankConfigured limit query).1 := by
  rw [rankConfigured, rankConfigured, fst_rank agree.faithful, fst_rank agree.otherFaithful,
    limitOf, limitOf, agree.entries, agree.maxResults, agree.includesTypes]

theorem Agree.rankConfigured (agree : Agree session other) (limit : Option Int) (query : String) :
    Agree session (other.rankConfigured limit query).2 :=
  agree.trans (agree_rankConfigured agree.otherFaithful limit query)

theorem Agree.present (agree : Agree session other) (ranking : Ranking) :
    Agree session (other.present ranking).2 :=
  agree.trans (agree_present agree.otherFaithful ranking)

theorem Agree.note (agree : Agree session other) (message : String) :
    Agree session (other.note .debug .query message) :=
  ⟨agree.entries, agree.shelves, agree.turns, agree.maxResults, agree.includesTypes,
    agree.faithful, agree.otherFaithful⟩

/-- Answering a query changes nothing that answers depend on. -/
theorem agree_search (faithful : session.Faithful) (limit : Option Int) (query : String) :
    Agree session (session.search limit query).2 :=
  kept_search (fun _ limit query agree => agree.rankConfigured limit query)
    (fun _ ranking agree => agree.present ranking) (.refl faithful) limit query

/-- Sessions that agree answer a query alike. -/
theorem fst_search (agree : Agree session other) (limit : Option Int) (query : String) :
    (session.search limit query).1 = (other.search limit query).1 := by
  have one := agree_rankConfigured agree.faithful limit query
  have two := agree_rankConfigured agree.otherFaithful limit query
  have same := fst_rankConfigured agree limit query
  rw [search, search]
  generalize session.rankConfigured limit query = ranked at one same
  generalize other.rankConfigured limit query = ranked' at two same
  obtain ⟨result, after⟩ := ranked
  obtain ⟨_, after'⟩ := ranked'
  cases same
  have later : Agree after after' := one.symm.trans (agree.trans two)
  cases result with
  | error error => rfl
  | ok ranking => exact congrArg Except.ok (fst_present later ranking)

theorem agree_rankAll (faithful : session.Faithful) (limit : Option Int)
    (queries : List (Nat × String)) : Agree session (session.rankAll limit queries).2 :=
  kept_rankAll (fun _ limit query agree => agree.rankConfigured limit query) (.refl faithful) limit
    queries

theorem fst_rankAll (agree : Agree session other) (limit : Option Int)
    (queries : List (Nat × String)) :
    (session.rankAll limit queries).1 = (other.rankAll limit queries).1 := by
  induction queries generalizing session other with
  | nil => rfl
  | cons query queries ih =>
      have one := agree_rankConfigured agree.faithful limit query.2
      have two := agree_rankConfigured agree.otherFaithful limit query.2
      have same := fst_rankConfigured agree limit query.2
      rw [rankAll, rankAll]
      generalize session.rankConfigured limit query.2 = ranked at one same
      generalize other.rankConfigured limit query.2 = ranked' at two same
      obtain ⟨result, after⟩ := ranked
      obtain ⟨_, after'⟩ := ranked'
      cases same
      cases result with
      | error error => rfl
      | ok ranking =>
          have rest := ih (one.symm.trans (agree.trans two))
          dsimp only at rest ⊢
          generalize after.rankAll limit queries = ranked at rest
          generalize after'.rankAll limit queries = ranked' at rest
          obtain ⟨results, last⟩ := ranked
          obtain ⟨_, last'⟩ := ranked'
          cases rest
          cases results <;> rfl

theorem fst_presentLatest (agree : Agree session other) (rankings : List (Nat × Ranking)) :
    (session.presentLatest rankings).1 = (other.presentLatest rankings).1 := by
  induction rankings generalizing session other with
  | nil => rfl
  | cons ranking rankings ih =>
      rw [presentLatest, presentLatest, agree.turns]
      split
      · have one := agree_present agree.faithful ranking.2
        have two := agree_present agree.otherFaithful ranking.2
        have rest := ih (one.symm.trans (agree.trans two))
        exact congrArg₂ List.cons (congrArg some (fst_present agree ranking.2)) rest
      · have noted : Agree (session.note .debug .query (staleMessage ranking.2))
            (other.note .debug .query (staleMessage ranking.2)) :=
          ⟨agree.entries, agree.shelves, agree.turns, agree.maxResults, agree.includesTypes,
            agree.faithful, agree.otherFaithful⟩
        exact congrArg (List.cons none) (ih noted)

/-- Answering queries together changes nothing but the tickets. -/
theorem agree_searchLatest (faithful : session.Faithful) (limit : Option Int)
    (queries : List String) :
    Agree { session with turns := (session.turns.startAll queries).2 }
      (session.searchLatest limit queries).2 :=
  kept_searchLatest (fun _ limit query agree => agree.rankConfigured limit query)
    (fun _ ranking agree => agree.present ranking) (fun _ message agree => agree.note message)
    limit queries (.refl faithful)

/-- Sessions that agree answer queries together alike, and agree afterwards. -/
theorem searchLatest_of_agree (agree : Agree session other) (limit : Option Int)
    (queries : List String) :
    (session.searchLatest limit queries).1 = (other.searchLatest limit queries).1 ∧
      Agree (session.searchLatest limit queries).2 (other.searchLatest limit queries).2 := by
  have started : Agree { session with turns := (session.turns.startAll queries).2 }
      { other with turns := (other.turns.startAll queries).2 } :=
    ⟨agree.entries, agree.shelves, congrArg (fun turns => (turns.startAll queries).2) agree.turns,
      agree.maxResults, agree.includesTypes, agree.faithful, agree.otherFaithful⟩
  have one := agree_searchLatest agree.faithful limit queries
  have two := agree_searchLatest agree.otherFaithful limit queries
  refine ⟨?_, one.symm.trans (started.trans two)⟩
  -- The same tickets are drawn, so from here on both rank the same numbered queries.
  rw [searchLatest, searchLatest, agree.turns]
  rw [agree.turns] at started
  generalize other.turns.startAll queries = begun at started
  obtain ⟨tickets, turns⟩ := begun
  have same := fst_rankAll started limit tickets
  have ranked := agree_rankAll started.faithful limit tickets
  have ranked' := agree_rankAll started.otherFaithful limit tickets
  dsimp only at same ranked ranked' ⊢
  generalize { session with turns }.rankAll limit tickets = all at same ranked
  generalize { other with turns }.rankAll limit tickets = all' at same ranked'
  obtain ⟨result, after⟩ := all
  obtain ⟨_, after'⟩ := all'
  cases same
  cases result with
  | error error => rfl
  | ok rankings =>
      exact congrArg Except.ok
        (fst_presentLatest (ranked.symm.trans (started.trans ranked')) rankings)

end Queries

end Session
end SignatureSearch
