import SignatureSearch.Proofs.Catalog.Settling
import SignatureSearch.Proofs.Session.Limits
import SignatureSearch.Proofs.Session.Overtaking

/-!
# What a step calls for

A canonical form is worked out when a step calls for it.  Warming up and looking at all entries call
for all forms, looking at one entry may call for its own, and a session that works signatures out on
loading calls for those of the entries that a load brings.  A query for a type calls for all forms,
whatever becomes of it; any other query calls for those of the entries that it is answered with, and
for none if it is overtaken or only ranked.
-/

namespace SignatureSearch
namespace Session

open Catalog (IsKnown Settled Slot)
open Search (Match)

/-! ## Queries -/

/-- The positions of the entries that answer a query, within its limit. -/
def Ranking.positions (ranking : Ranking) : List Nat :=
  ranking.found.map Match.position

/-- The positions of the entries that a query is answered with. -/
def shown (session : Session) (limit : Option Int) (query : String) : List Nat :=
  match (session.rankConfigured limit query).1 with
  | .error _ => []
  | .ok ranking => ranking.positions

theorem asks_type_iff {query : String} :
    asks .type query = true ↔ Search.classify (Signature.parse query) = .type :=
  decide_eq_true_iff

theorem asks_name_iff {query : String} : asks .name query = true ↔ ¬asks .type query = true := by
  rw [asks, asks]
  cases Search.classify (Signature.parse query) <;> decide

section Queries

variable {session : Session}

/-- A ranking gives entries of the session. -/
theorem located_rank (faithful : session.Faithful) {includeTypes : Bool} {limit : Option Int}
    {query : String} {ranking : Ranking}
    (ranked : (session.rank includeTypes limit query).1 = .ok ranking) :
    ranking.mode = Search.classify (Signature.parse query) ∧
      Search.Located session.catalog.entries ranking.found := by
  obtain ⟨found, answered⟩ :=
    Search.answers_parse includeTypes query session.catalog.entries
  rw [fst_rank faithful, rankingOf, answered] at ranked
  cases ranked
  exact ⟨rfl, fun own listed =>
    Search.located_answers answered own (Search.mem_of_mem_cut listed)⟩

/-- A query is answered with the entries at the positions that are shown, in their order. -/
theorem entries_search (faithful : session.Faithful) (limit : Option Int) (query : String) :
    ∃ response, (session.search limit query).1 = .ok response ∧
      response.results.map (fun result => some result.entry) =
        (session.shown limit query).map fun position => session.catalog.entries[position]? := by
  obtain ⟨ranking, response, ranked, answered, results⟩ := fst_search_eq faithful limit query
  have located := (located_rank faithful ranked).2
  have shown : session.shown limit query = ranking.positions := by
    rw [Session.shown, rankConfigured, ranked]
  refine ⟨response, answered, ?_⟩
  rw [results, shown, Ranking.positions, List.map_map, List.map_map]
  exact List.map_congr_left fun own listed => (located own listed).symm

theorem settled_rank (session : Session) (includeTypes : Bool) (limit : Option Int)
    (query : String) :
    Settled (fun _ => asks .type query = true) session.catalog.slots
      (session.rank includeTypes limit query).2.catalog.slots := by
  obtain ⟨found, slots, looked, -, catalog, -⟩ := session.rank_spec includeTypes limit query
  rw [catalog]
  exact (Search.settled_lookup looked).congr fun _ => asks_type_iff.symm

theorem settled_rankConfigured (session : Session) (limit : Option Int) (query : String) :
    Settled (fun _ => asks .type query = true) session.catalog.slots
      (session.rankConfigured limit query).2.catalog.slots :=
  session.settled_rank _ _ query

theorem settled_showAll (slots : List Slot) (found : List Match) :
    Settled (· ∈ found.map Match.position) slots (showAll slots found).2 := by
  induction found generalizing slots with
  | nil => exact (Settled.refl slots).congr fun _ => (List.mem_nil_iff _).symm
  | cons first others ih =>
      have here : Settled _ slots (slots.modify first.position Slot.settle) :=
        Catalog.settled_modify Slot.settles_readNormalized slots first.position
      have rest : (showAll slots (first :: others)).2 =
          (showAll (slots.modify first.position Slot.settle) others).2 := by
        rw [← set_settle_slotOf]
        rfl
      rw [rest]
      refine (here.trans (ih _)).congr fun position => ?_
      rw [List.map_cons, List.mem_cons, and_true, eq_comm]

/-- Showing a ranking calls for the forms of its entries. -/
theorem settled_present (session : Session) (ranking : Ranking) :
    Settled (· ∈ ranking.positions) session.catalog.slots
      (session.present ranking).2.catalog.slots :=
  settled_showAll session.catalog.slots ranking.found

theorem shown_of_agree {session other : Session} (agree : Agree session other)
    (limit : Option Int) (query : String) :
    session.shown limit query = other.shown limit query := by
  rw [shown, shown, fst_rankConfigured agree]

/-- A query for a type calls for all forms, another one for those of the entries that it is
answered with. -/
theorem settled_search (session : Session) (limit : Option Int) (query : String) :
    Settled
      (fun position => asks .type query = true ∨
        asks .name query = true ∧ position ∈ session.shown limit query)
      session.catalog.slots (session.search limit query).2.catalog.slots := by
  obtain ⟨ranking, after, ranked, -⟩ := session.rankConfigured_succeeds limit query
  have worked := session.settled_rankConfigured limit query
  rw [ranked] at worked
  rw [search, ranked, shown, ranked]
  refine (worked.trans (after.settled_present ranking)).congr fun position => ?_
  rw [asks_name_iff]
  tauto

theorem settled_rankAll (faithful : session.Faithful) (limit : Option Int)
    (queries : List (Nat × String)) :
    ∃ rankings after, session.rankAll limit queries = (.ok rankings, after) ∧
      after.turns = session.turns ∧
      Settled (fun _ => ∃ query ∈ queries, asks .type query.2 = true) session.catalog.slots
        after.catalog.slots ∧
      rankings.map (fun ranking => (ranking.1, ranking.2.positions)) =
        queries.map fun query => (query.1, session.shown limit query.2) := by
  induction queries generalizing session with
  | nil => exact ⟨[], session, rfl, rfl, (Settled.refl _).congr (by simp), rfl⟩
  | cons query queries ih =>
      obtain ⟨ticket, query⟩ := query
      obtain ⟨ranking, next, ranked, -⟩ := session.rankConfigured_succeeds limit query
      have worked := session.settled_rankConfigured limit query
      have agree := agree_rankConfigured faithful limit query
      rw [ranked] at worked agree
      obtain ⟨rankings, after, rest, turns, others, positions⟩ := ih agree.otherFaithful
      have own : ranking.positions = session.shown limit query := by rw [shown, ranked]
      refine ⟨(ticket, ranking) :: rankings, after, ?_, turns.trans agree.turns.symm, ?_, ?_⟩
      · rw [rankAll, ranked]
        dsimp only
        rw [rest]
      · refine (worked.trans others).congr fun position => ?_
        rw [List.exists_mem_cons_iff]
      · rw [List.map_cons, List.map_cons, positions, own]
        simp only [shown_of_agree agree]

/-- Only a ranking whose ticket counts is shown. -/
theorem settled_presentLatest (session : Session) (rankings : List (Nat × Ranking)) :
    Settled
      (fun position => ∃ ranking ∈ rankings, session.turns.counts ranking.1 = true ∧
        position ∈ ranking.2.positions)
      session.catalog.slots (session.presentLatest rankings).2.catalog.slots := by
  induction rankings generalizing session with
  | nil => exact (Settled.refl _).congr (by simp)
  | cons ranking rankings ih =>
      rw [presentLatest]
      split
      · rename_i newest
        have shown := session.settled_present ranking.2
        refine (shown.trans (ih (session.present ranking.2).2)).congr fun position => ?_
        rw [List.exists_mem_cons_iff, and_iff_right newest]
        rfl
      · rename_i stale
        have rest := ih (session.note .debug .query (staleMessage ranking.2))
        refine rest.congr fun position => ?_
        rw [List.exists_mem_cons_iff, or_iff_right fun both => stale both.1]
        rfl

/-- Of queries that are started together, each one for a type calls for all forms, and the last one,
if it is for names, for those of the entries that it is answered with. -/
theorem settled_searchLatest (faithful : session.Faithful) (limit : Option Int)
    (queries : List String) :
    Settled
      (fun position => (∃ query ∈ queries, asks .type query = true) ∨
        ∃ query ∈ queries.getLast?,
          asks .name query = true ∧ position ∈ session.shown limit query)
      session.catalog.slots (session.searchLatest limit queries).2.catalog.slots := by
  let started : Session := { session with turns := (session.turns.startAll queries).2 }
  have begun : started.Faithful := faithful
  obtain ⟨rankings, after, ranked, turns, worked, positions⟩ :=
    settled_rankAll begun limit (session.turns.startAll queries).1
  have asked : (∃ call ∈ (session.turns.startAll queries).1, asks .type call.2 = true) ↔
      ∃ query ∈ queries, asks .type query = true := by
    conv_rhs => rw [← map_snd_startAll session.turns queries]
    simp only [List.mem_map, exists_exists_and_eq_and]
  have same (query : String) : started.shown limit query = session.shown limit query := by
    rw [shown, shown, rankConfigured, rankConfigured, fst_rank faithful, fst_rank begun]
    rfl
  have last (position : Nat) :
      (∃ ranking ∈ rankings, after.turns.counts ranking.1 = true ∧
        position ∈ ranking.2.positions) ↔
        ∃ query ∈ queries.getLast?, position ∈ session.shown limit query := by
    rw [← Search.Turns.exists_counts_startAll session.turns]
    calc _ ↔ ∃ given ∈ rankings.map fun ranking => (ranking.1, ranking.2.positions),
          after.turns.counts given.1 = true ∧ position ∈ given.2 := by
            simp only [List.mem_map, exists_exists_and_eq_and]
      _ ↔ _ := by
          simp only [positions, turns, same, List.mem_map, exists_exists_and_eq_and]
          rfl
  rw [searchLatest]
  dsimp only
  rw [ranked]
  refine (worked.trans (after.settled_presentLatest rankings)).congr fun position => ?_
  rw [asked, last]
  constructor
  · rintro (called | ⟨query, own, here⟩)
    · exact .inl called
    · by_cases type : asks .type query = true
      · exact .inl ⟨query, List.mem_of_getLast? own, type⟩
      · exact .inr ⟨query, own, asks_name_iff.mpr type, here⟩
  · rintro (called | ⟨query, own, -, here⟩)
    · exact .inl called
    · exact .inr ⟨query, own, here⟩

end Queries

/-! ## Steps -/

/-- A step calls for the canonical form of the entry at a position. -/
inductive CallsFor (session : Session) (position : Nat) : Step → Prop where
  /-- Signatures are worked out on loading, and the entry is one that a load brings. -/
  | load {package : String} {modules : List Docs.ModuleDocs}
      (eager : session.settings.eagerParse = true) (new : session.catalog.size ≤ position) :
      CallsFor session position (.ask (.load package modules))
  /-- All forms are worked out. -/
  | warm : CallsFor session position (.ask .warm)
  /-- All entries are looked at. -/
  | inspect : CallsFor session position (.ask .inspect)
  /-- The form of this entry is looked at. -/
  | look : CallsFor session position (.look position .normalized)
  /-- A query for a type is run, maybe one that is overtaken. -/
  | type {step : Step} {query : String} (run : query ∈ step.queries)
      (type : asks .type query = true) : CallsFor session position step
  /-- A query for names is answered with the entry. -/
  | search {limit : Option Int} {query : String} (name : asks .name query = true)
      (found : position ∈ session.shown limit query) :
      CallsFor session position (.ask (.search limit query))
  /-- Queries are started together, and the last one, which is for names, is answered with the
  entry. -/
  | searchLatest {limit : Option Int} {queries : List String} {query : String}
      (last : query ∈ queries.getLast?) (name : asks .name query = true)
      (found : position ∈ session.shown limit query) :
      CallsFor session position (.ask (.searchLatest limit queries))

/-- Between two states of a session, entries may have been added, the canonical forms at some
positions have been called for, and nothing has been forgotten. -/
structure Advances (called : Nat → Prop) (before after : Session) : Prop where
  /-- The slot at a position stays there. -/
  kept : ∀ (position : Nat) (slot : Slot), before.catalog.slots[position]? = some slot →
    ∃ later, after.catalog.slots[position]? = some later ∧ Slot.Keeps slot later
  /-- A form is known once it has been called for, and not before. -/
  known : ∀ position, IsKnown after.catalog.slots position ↔
    IsKnown before.catalog.slots position ∨ position < after.catalog.size ∧ called position

theorem Advances.of_settled {called : Nat → Prop} {before after : Session}
    (settled : Settled called before.catalog.slots after.catalog.slots) :
    Advances called before after where
  kept _ _ listed := (settled.kept listed).imp fun _ => And.imp_right (·.toKeeps)
  known position := by rw [settled.isKnown_iff, Catalog.size, settled.length]

/-- The slots of a batch come after the others, and their forms are known if signatures are worked
out on loading. -/
theorem advances_add {session after : Session} {grown : Catalog} {batch : Catalog.Batch}
    {eager : Bool} (added : session.catalog.add batch eager = .ok grown)
    (catalog : after.catalog = grown) :
    Advances (fun position => eager = true ∧ session.catalog.size ≤ position) session after := by
  obtain ⟨-, slots, -⟩ := Catalog.add_eq_ok added
  rw [← catalog] at slots
  constructor
  · intro position slot listed
    have inside := (List.getElem?_eq_some_iff.mp listed).1
    rw [slots, List.getElem?_append_left inside]
    exact ⟨slot, listed, .refl slot⟩
  · intro position
    rw [slots, Catalog.isKnown_append, Catalog.isKnown_slotsOf, Catalog.size, slots,
      List.length_append, Catalog.size]
    refine or_congr_right ⟨?_, ?_⟩
    · rintro ⟨new, eager, inside⟩
      exact ⟨by omega, eager, new⟩
    · rintro ⟨inside, eager, new⟩
      exact ⟨new, eager, by omega⟩

theorem advances_load (session : Session) (package : String) (modules : List Docs.ModuleDocs) :
    Advances (fun position => session.settings.eagerParse = true ∧ session.catalog.size ≤ position)
      session (session.load package modules).2 := by
  rcases session.load_cases ⟨package, modules⟩ with ⟨-, -, same⟩ | ⟨grown, added, -, same⟩
  · -- No entry is new, so none is called for.
    have catalog : (session.load package modules).2.catalog = session.catalog := same.catalog
    refine ⟨fun position slot listed => ⟨slot, ?_, .refl slot⟩, fun position => ?_⟩
    · rwa [catalog]
    · rw [catalog]
      exact (or_iff_left fun called => Nat.not_le_of_lt called.1 called.2.2).symm
  · exact advances_add added same.catalog

/-- A step that is not a load works out what it calls for. -/
theorem settled_after {session : Session} (faithful : session.Faithful) {step : Step}
    (other : ∀ package modules, step ≠ .ask (.load package modules)) :
    Settled (session.CallsFor · step) session.catalog.slots
      (session.after step).catalog.slots := by
  cases step with
  | look chosen aspect =>
      have settles (slot : Slot) :
          Slot.Settles (aspect = .normalized) slot (slot.see aspect) := by
        cases aspect with
        | outcome => exact slot.settles_readOutcome.congr (by simp)
        | typeText => exact slot.settles_readTypeText.congr (by simp)
        | normalized => exact slot.settles_readNormalized.congr (by simp)
      refine (Catalog.settled_modify settles session.catalog.slots chosen).congr fun position => ?_
      constructor
      · rintro ⟨rfl, rfl⟩
        exact .look
      · rintro (_ | _ | _ | _ | ⟨run, -⟩)
        · exact ⟨rfl, rfl⟩
        · cases run
  | ask operation =>
      cases operation with
      | load package modules => exact absurd rfl (other package modules)
      | search limit query =>
          refine (session.settled_search limit query).congr fun position => ?_
          constructor
          · rintro (type | ⟨name, found⟩)
            · exact .type (List.mem_singleton_self query) type
            · exact .search name found
          · rintro (_ | _ | _ | _ | ⟨run, type⟩ | ⟨name, found⟩)
            · exact .inl (List.mem_singleton.mp run ▸ type)
            · exact .inr ⟨name, found⟩
      | searchLatest limit queries =>
          refine (settled_searchLatest faithful limit queries).congr fun position => ?_
          constructor
          · rintro (⟨query, run, type⟩ | ⟨query, last, name, found⟩)
            · exact .type run type
            · exact .searchLatest last name found
          · rintro (_ | _ | _ | _ | ⟨run, type⟩ | _ | ⟨last, name, found⟩)
            · exact .inl ⟨_, run, type⟩
            · exact .inr ⟨_, last, name, found⟩
      | rank includeTypes limit query =>
          refine (session.settled_rank includeTypes limit query).congr fun position => ?_
          constructor
          · exact fun type => .type (List.mem_singleton_self query) type
          · rintro (_ | _ | _ | _ | ⟨run, type⟩)
            exact List.mem_singleton.mp run ▸ type
      | warm =>
          have settled := Catalog.settled_map Slot.settles_readNormalized session.catalog.slots
          exact settled.congr fun _ => iff_of_true trivial .warm
      | inspect =>
          have settled := Catalog.settled_map Slot.settles_view session.catalog.slots
          rw [← Function.comp_def Prod.snd Slot.view, ← List.map_map] at settled
          exact settled.congr fun _ => iff_of_true trivial .inspect
      | _ =>
          refine (Settled.refl session.catalog.slots).congr fun position => ?_
          refine iff_of_false id ?_
          rintro (_ | _ | _ | _ | ⟨run, -⟩)
          cases run

theorem faithful_after {session : Session} (faithful : session.Faithful) (step : Step) :
    (session.after step).Faithful := by
  by_cases load : ∃ package modules, step = .ask (.load package modules)
  · obtain ⟨package, modules, rfl⟩ := load
    exact faithful_load faithful ⟨package, modules⟩
  · exact (unloaded_after faithful fun package modules same =>
      load ⟨package, modules, same⟩).faithful

/-- A step works out what it calls for, and forgets nothing. -/
theorem advances_after {session : Session} (faithful : session.Faithful) (step : Step) :
    Advances (session.CallsFor · step) session (session.after step) := by
  by_cases load : ∃ package modules, step = .ask (.load package modules)
  · obtain ⟨package, modules, rfl⟩ := load
    obtain ⟨kept, known⟩ := session.advances_load package modules
    refine ⟨kept, fun position => (known position).trans ?_⟩
    refine or_congr_right (and_congr_right fun _ => ⟨?_, ?_⟩)
    · exact fun ⟨eager, new⟩ => .load eager new
    · rintro (⟨eager, new⟩ | _ | _ | _ | ⟨run, -⟩)
      · exact ⟨eager, new⟩
      · cases run
  · exact .of_settled (settled_after faithful fun package modules same =>
      load ⟨package, modules, same⟩)

end Session
end SignatureSearch
