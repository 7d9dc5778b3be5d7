import SignatureSearch.Proofs.Session.Fallbacks

/-!
# Sessions that can come about

A session starts empty, is asked for things, looked at and configured anew, and takes batches.  Only
adding changes what it holds, and only loading changes the counts of what was loaded; so what a
session keeps in its slots is always right, and once a package has been added the number of entries
it has counted is the number it holds.
-/

namespace SignatureSearch
namespace Session

open Catalog (AlreadyIndexed Batch)

/-- The sessions that can come about. -/
inductive Reachable : Session → Prop where
  /-- A session that has done nothing yet. -/
  | start (settings : Settings) : Reachable (start settings)
  /-- A session is asked for something, or looked at. -/
  | after {session : Session} (reachable : Reachable session) (step : Step) :
      Reachable (session.after step)
  /-- A batch is given to a session. -/
  | add {session : Session} (reachable : Reachable session) (batch : Batch) :
      Reachable (session.add batch).2
  /-- A session is configured anew. -/
  | configured {session : Session} (reachable : Reachable session) (settings : Settings) :
      Reachable { session with settings }

/-! ## The counts of loading -/

/-- The counts that only loading changes. -/
def Tally.ofLoads (tally : Tally) : Nat × Table Nat × Nat :=
  (tally.loadsTimed, tally.moduleFailures, tally.indexedEntries)

theorem ofLoads_onQueries (tally : Tally) (change : QueryCount → QueryCount)
    (mode : Search.Mode) : (tally.onQueries change mode).ofLoads = tally.ofLoads := by
  cases mode <;> rfl

section Queries

variable (session : Session) (limit : Option Int)

theorem ofLoads_rank (includeTypes : Bool) (query : String) :
    (session.rank includeTypes limit query).2.tally.ofLoads = session.tally.ofLoads := by
  obtain ⟨_, _, -, -, -, -, -, tally⟩ := session.rank_spec includeTypes limit query
  rw [tally, ofLoads_onQueries]
  rfl

theorem ofLoads_search (query : String) :
    (session.search limit query).2.tally.ofLoads = session.tally.ofLoads :=
  kept_search (P := fun after => after.tally.ofLoads = session.tally.ofLoads)
    (fun after _ _ same => (after.ofLoads_rank ..).trans same) (fun _ _ same => same) rfl limit query

theorem ofLoads_searchLatest (queries : List String) :
    (session.searchLatest limit queries).2.tally.ofLoads = session.tally.ofLoads :=
  kept_searchLatest (P := fun after => after.tally.ofLoads = session.tally.ofLoads)
    (fun after _ _ same => (after.ofLoads_rank ..).trans same) (fun _ _ same => same)
    (fun _ _ same => same) limit queries rfl

end Queries

/-! ## What is kept by everything but loading -/

/-- A session holds what another holds, has counted the same of loading, and keeps nothing
false. -/
structure Unloaded (before after : Session) : Prop where
  entries : after.catalog.entries = before.catalog.entries
  shelves : after.catalog.shelves = before.catalog.shelves
  counts : after.tally.ofLoads = before.tally.ofLoads
  faithful : after.Faithful

theorem Unloaded.of_agree {before after : Session} (agree : Agree before after)
    (counts : after.tally.ofLoads = before.tally.ofLoads) : Unloaded before after :=
  ⟨agree.entries.symm, agree.shelves.symm, counts, agree.otherFaithful⟩

theorem Unloaded.size {before after : Session} (unloaded : Unloaded before after) :
    after.catalog.size = before.catalog.size := by
  rw [← Catalog.length_entries, unloaded.entries, Catalog.length_entries]

/-- Everything but loading keeps what a session holds. -/
theorem unloaded_after {session : Session} (faithful : session.Faithful) {step : Step}
    (other : ∀ package modules, step ≠ .ask (.load package modules)) :
    Unloaded session (session.after step) := by
  cases step with
  | look position aspect => exact .of_agree (agree_look faithful position aspect) rfl
  | ask operation =>
      cases operation with
      | load package modules => exact absurd rfl (other package modules)
      | search limit query =>
          exact .of_agree (agree_search faithful limit query) (ofLoads_search ..)
      | searchLatest limit queries =>
          have agree := agree_searchLatest faithful limit queries
          exact ⟨agree.entries.symm, agree.shelves.symm, ofLoads_searchLatest ..,
            agree.otherFaithful⟩
      | rank includeTypes limit query =>
          exact .of_agree (agree_rank faithful includeTypes limit query) (ofLoads_rank ..)
      | warm => exact .of_agree (agree_warm faithful) rfl
      | inspect => exact .of_agree (agree_inspect faithful) rfl
      | _ => exact ⟨rfl, rfl, rfl, faithful⟩

/-! ## Adding and loading -/

theorem indexedEntries_leaveOut (session : Session) (batch : Batch) :
    (session.leaveOut batch).tally.indexedEntries = session.tally.indexedEntries := by
  rw [tally_leaveOut, Tally.leaveOut]
  split <;> rfl

/-- A batch whose package is there is refused and nothing changes, or else it is added and all
entries are counted. -/
theorem add_cases (session : Session) (batch : Batch) :
    (batch.package ∈ session.catalog.packages ∧
      (session.add batch).1 = .error { package := batch.package } ∧
      SameWork session (session.add batch).2 ∧
      (session.add batch).2.tally.indexedEntries = session.tally.indexedEntries) ∨
    ∃ grown, session.catalog.add batch session.settings.eagerParse = .ok grown ∧
      (session.add batch).1 = .ok (.ofBatch batch) ∧
      SameWork { session with catalog := grown } (session.add batch).2 ∧
      (session.add batch).2.tally.indexedEntries = grown.size := by
  have catalog : (session.prepare batch).catalog = session.catalog := rfl
  have settings : (session.prepare batch).settings = session.settings := rfl
  rw [add]
  dsimp only
  rw [catalog, settings]
  cases added : session.catalog.add batch session.settings.eagerParse with
  | error refused =>
      obtain ⟨known, rfl⟩ := Catalog.add_eq_error_iff.mp added
      exact .inl ⟨known, rfl, ⟨rfl, rfl, rfl⟩, rfl⟩
  | ok grown => exact .inr ⟨grown, rfl, rfl, ⟨rfl, rfl, rfl⟩, rfl⟩

/-- Once a package has been added, the entries counted last are those that are held. -/
def CountsEntries (session : Session) : Prop :=
  session.catalog.packages ≠ [] → session.tally.indexedEntries = session.catalog.size

theorem countsEntries_add {session : Session} (counts : session.CountsEntries) (batch : Batch) :
    (session.add batch).2.CountsEntries := by
  intro some
  rcases session.add_cases batch with ⟨-, -, same, unchanged⟩ | ⟨grown, -, -, same, changed⟩
  · rw [same.catalog] at some ⊢
    rw [unchanged, counts some]
  · rw [changed, same.catalog]

theorem countsEntries_load {session : Session} (counts : session.CountsEntries) (package : String)
    (modules : List Docs.ModuleDocs) : (session.load package modules).2.CountsEntries := by
  let batch := Batch.ofModules package modules
  have prepared : (session.leaveOut batch).CountsEntries := by
    intro some
    have same := sameWork_leaveOut session batch
    rw [same.catalog] at some ⊢
    rw [indexedEntries_leaveOut, counts some]
  exact countsEntries_add prepared batch

/-! ## Every reachable session -/

namespace Reachable

variable {session : Session}

theorem invariant (reachable : Reachable session) :
    session.Faithful ∧ session.CountsEntries := by
  induction reachable with
  | start settings => exact ⟨faithful_start settings, fun some => absurd rfl some⟩
  | @after session _ step ih =>
      obtain ⟨faithful, counts⟩ := ih
      by_cases load : ∃ package modules, step = .ask (.load package modules)
      · obtain ⟨package, modules, rfl⟩ := load
        exact ⟨faithful_load faithful ⟨package, modules⟩,
          countsEntries_load counts package modules⟩
      · have unloaded := unloaded_after faithful fun package modules same =>
          load ⟨package, modules, same⟩
        refine ⟨unloaded.faithful, fun some => ?_⟩
        have before := counts (by rwa [Catalog.packages, ← unloaded.shelves])
        rw [unloaded.size, ← before]
        exact congrArg (·.2.2) unloaded.counts
  | @add session _ batch ih =>
      obtain ⟨faithful, counts⟩ := ih
      refine ⟨?_, countsEntries_add counts batch⟩
      rcases session.add_cases batch with ⟨-, -, same, -⟩ | ⟨grown, added, -, same, -⟩
      · exact (same.agree faithful).otherFaithful
      · exact (same.agree (allFaithful_add faithful added)).otherFaithful
  | configured _ settings ih => exact ih

theorem faithful (reachable : Reachable session) : session.Faithful :=
  reachable.invariant.1

end Reachable

end Session
end SignatureSearch
