import SignatureSearch.Proofs.Catalog.Discoveries
import SignatureSearch.Proofs.Session.Rankings
import SignatureSearch.Proofs.Session.Transparency

/-!
# Every refused text is counted once

A session counts the texts that had to stand for themselves because they are no signatures.  However
lazily signatures are worked out, and whatever forces that, the count is the number of refused
queries and of refused entries parsed so far.  A session that works signatures out on loading also
counts those of a package that is then found to be there already.
-/

namespace SignatureSearch
namespace Session

open Catalog (AllSound Batch Delivery Grown Slot)
open Signature (isRefused)

/-! ## The history of a session -/

/-- The queries that an operation runs. -/
def Operation.queries : Operation → List String
  | .search _ query => [query]
  | .searchLatest _ queries => queries
  | .rank _ _ query => [query]
  | _ => []

/-- The queries that a step runs. -/
def Step.queries : Step → List String
  | .ask operation => operation.queries
  | .look _ _ => []

/-- The session after a step. -/
def after (session : Session) : Step → Session
  | .ask operation => (session.perform operation).2
  | .look position aspect => session.look position aspect

/-- The batches that a step fails to add because their packages are there already. -/
def duplicates (session : Session) : Step → List Batch
  | .ask (.load package modules) =>
      match (session.load package modules).1 with
      | .error _ => [.ofModules package modules]
      | .ok _ => []
  | _ => []

/-- The batches that steps fail to add because their packages are there already. -/
def allDuplicates (session : Session) : List Step → List Batch
  | [] => []
  | step :: steps => session.duplicates step ++ (session.after step).allDuplicates steps

theorem snd_observe (session : Session) (steps : List Step) :
    (session.observe steps).2 = steps.foldl after session := by
  induction steps generalizing session with
  | nil => rfl
  | cons step steps ih => cases step <;> exact ih _

/-! ## The balance of the count -/

/-- The entries of a session whose signatures have been parsed and refused. -/
def counted (session : Session) : Nat :=
  session.catalog.slots.countP Slot.isCounted

/-- Between two states of a session, as many texts have been counted as entries have been found to
be refused, and some others. -/
structure Balanced (others : Nat) (before after : Session) : Prop where
  /-- The session is configured as before. -/
  settings : after.settings = before.settings
  /-- What is kept in the slots is right. -/
  sound : AllSound after.catalog.slots
  /-- The count and what it is made of grow alike. -/
  balance : after.tally.parseFallbacks + before.counted =
    before.tally.parseFallbacks + others + after.counted

namespace Balanced

variable {session before after last : Session} {others more : Nat}

theorem trans (one : Balanced others before after) (two : Balanced more after last) :
    Balanced (others + more) before last where
  settings := two.settings.trans one.settings
  sound := two.sound
  balance := by
    have first := one.balance
    have second := two.balance
    omega

/-- Nothing happens but that some texts turn out to be no signatures. -/
theorem of_sameCatalog (sound : AllSound before.catalog.slots)
    (settings : after.settings = before.settings) (catalog : after.catalog = before.catalog)
    (fallbacks : after.tally.parseFallbacks = before.tally.parseFallbacks + others) :
    Balanced others before after where
  settings := settings
  sound := by rwa [catalog]
  balance := by rw [fallbacks, counted, counted, catalog]

/-- Working out more in the slots is balanced by itself. -/
theorem of_grown (sound : AllSound session.catalog.slots) {slots : List Slot}
    (grown : Grown session.catalog.slots slots) : Balanced 0 session (session.keep slots) where
  settings := rfl
  sound := grown.allSound sound
  balance := by
    have found := Catalog.length_discoveries grown sound
    change session.tally.parseFallbacks
        + (Catalog.discoveries session.catalog.slots slots).length + session.counted =
      session.tally.parseFallbacks + 0 + slots.countP Slot.isCounted
    rw [counted]
    omega

end Balanced

/-! ## Queries -/

theorem parseFallbacks_onQueries (tally : Tally) (change : QueryCount → QueryCount)
    (mode : Search.Mode) : (tally.onQueries change mode).parseFallbacks = tally.parseFallbacks := by
  cases mode <;> rfl

/-- Showing a match works out the slot at its position; a position outside the catalogue is not set
either, so its slot does not matter. -/
theorem set_settle_slotOf (slots : List Slot) (found : Search.Match) :
    slots.set found.position (slotOf slots found).settle =
      slots.modify found.position Slot.settle := by
  let here : Inhabited Slot := ⟨.untouched found.entry⟩
  exact (List.modify_eq_set Slot.settle found.position slots).symm

/-- Showing results forgets nothing. -/
theorem grown_showAll (slots : List Slot) (found : List Search.Match) :
    Grown slots (showAll slots found).2 := by
  induction found generalizing slots with
  | nil => exact .refl slots
  | cons first others ih =>
      have grown := Catalog.grown_modify Slot.grows_readNormalized slots first.position
      have here := set_settle_slotOf slots first
      exact grown.trans (here ▸ ih _)

section Queries

variable {session : Session} (sound : AllSound session.catalog.slots)

include sound

/-- A query that is ranked is counted if it is refused, and besides it the entries that have to be
parsed for it. -/
theorem balanced_rank (includeTypes : Bool) (limit : Option Int) (query : String) :
    Balanced ([query].countP isRefused) session (session.rank includeTypes limit query).2 := by
  obtain ⟨found, slots, looked, -, catalog, settings, -, tally⟩ :=
    session.rank_spec includeTypes limit query
  -- The query is read, then the slots are looked through, and what remains touches neither.
  let read := session.discover (Signature.outcome query).error?.toList
  have counted : Balanced ([query].countP isRefused) session read := by
    refine .of_sameCatalog sound rfl rfl ?_
    rw [← Signature.length_error?_outcome]
    rfl
  have kept : Balanced 0 read (read.keep slots) :=
    .of_grown counted.sound (Search.grown_lookup looked)
  have same : Balanced 0 (read.keep slots) (session.rank includeTypes limit query).2 := by
    refine .of_sameCatalog kept.sound settings catalog ?_
    rw [tally, parseFallbacks_onQueries]
    rfl
  exact (counted.trans kept).trans same

theorem balanced_present (ranking : Ranking) :
    Balanced 0 session (session.present ranking).2 :=
  .of_grown sound (grown_showAll session.catalog.slots ranking.found)

end Queries

/-- Every query that is run is counted if it is refused, also one that is overtaken. -/
theorem composes_balanced : Composes fun queries before after =>
    AllSound before.catalog.slots → Balanced (queries.countP isRefused) before after where
  refl _ sound := .of_sameCatalog sound rfl rfl rfl
  trans one two sound := by
    have first := one sound
    rw [List.countP_append]
    exact first.trans (two first.sound)
  ranked session limit query sound := balanced_rank sound _ _ query
  shown _ ranking sound := balanced_present sound ranking
  noted _ _ sound := .of_sameCatalog sound rfl rfl rfl
  begun _ _ sound := .of_sameCatalog sound rfl rfl rfl

/-! ## Loads -/

theorem parseFallbacks_leaveOut (session : Session) (batch : Batch) :
    (session.leaveOut batch).tally.parseFallbacks = session.tally.parseFallbacks := by
  rw [tally_leaveOut, Tally.leaveOut]
  split <;> rfl

/-- A session that works signatures out on loading counts those of every batch, whether the batch
can be added or not. -/
theorem parseFallbacks_load (session : Session) (package : String)
    (modules : List Docs.ModuleDocs) :
    (session.load package modules).2.tally.parseFallbacks =
      session.tally.parseFallbacks
        + if session.settings.eagerParse then (Batch.ofModules package modules).refusedCount
          else 0 := by
  let batch := Batch.ofModules package modules
  have prepared : ((session.leaveOut batch).prepare batch).tally.parseFallbacks =
      session.tally.parseFallbacks
        + if session.settings.eagerParse then batch.refusedCount else 0 := by
    change (session.leaveOut batch).tally.parseFallbacks + List.length _ = _
    rw [parseFallbacks_leaveOut, Catalog.length_discoveries_slotsOf,
      (sameWork_leaveOut session batch).settings]
  rw [← prepared, load, add]
  cases Catalog.add _ _ _ <;> rfl

theorem balanced_load {session : Session} (sound : AllSound session.catalog.slots)
    (package : String) (modules : List Docs.ModuleDocs) :
    Balanced
      (if session.settings.eagerParse then
        ((session.duplicates (.ask (.load package modules))).map Batch.refusedCount).sum else 0)
      session (session.load package modules).2 := by
  have fallbacks := session.parseFallbacks_load package modules
  rcases session.load_cases ⟨package, modules⟩ with
    ⟨-, refused, same⟩ | ⟨grown, added, accepted, same⟩
  · refine .of_sameCatalog sound same.settings same.catalog ?_
    rw [duplicates, refused]
    simpa using fallbacks
  · obtain ⟨-, slots, -⟩ := Catalog.add_eq_ok added
    have catalog : (session.load package modules).2.catalog = grown := same.catalog
    refine ⟨same.settings, ?_, ?_⟩
    · rw [catalog, slots]
      exact List.forall_mem_append.mpr ⟨sound, Catalog.allSound_slotsOf _ _⟩
    · have later : (session.load package modules).2.counted =
          session.counted
            + if session.settings.eagerParse then (Batch.ofModules package modules).refusedCount
              else 0 := by
        rw [counted, catalog, slots, List.countP_append, Catalog.countP_slotsOf]
        rfl
      have none_lost : session.duplicates (.ask (.load package modules)) = [] := by
        rw [duplicates, accepted]
      rw [none_lost, fallbacks, later]
      simp only [List.map_nil, List.sum_nil, ite_self]
      omega

/-! ## Whole sessions -/

theorem balanced_warm {session : Session} (sound : AllSound session.catalog.slots) :
    Balanced 0 session session.warm.2 :=
  .of_grown sound (Catalog.grown_map Slot.grows_readNormalized _)

theorem grows_see (slot : Slot) (aspect : Catalog.Aspect) : Slot.Grows slot (slot.see aspect) := by
  cases aspect with
  | outcome => exact slot.grows_readOutcome
  | typeText => exact slot.grows_readTypeText
  | normalized => exact slot.grows_readNormalized

/-- The texts that a step counts beside the entries of the session: refused queries, and what is
found out about a batch that cannot be added. -/
def cost (session : Session) (step : Step) : Nat :=
  step.queries.countP isRefused
    + if session.settings.eagerParse then
        ((session.duplicates step).map Batch.refusedCount).sum else 0

theorem cost_of_no_duplicates {session : Session} {step : Step}
    (adds : session.duplicates step = []) : session.cost step = step.queries.countP isRefused := by
  rw [cost, adds, List.map_nil, List.sum_nil, ite_self, Nat.add_zero]

/-- What one step counts. -/
theorem balanced_after {session : Session} (sound : AllSound session.catalog.slots)
    (step : Step) : Balanced (session.cost step) session (session.after step) := by
  cases step with
  | look position aspect =>
      have grown := Catalog.grown_modify (fun slot => grows_see slot aspect)
        session.catalog.slots position
      rw [cost_of_no_duplicates rfl]
      exact .of_grown sound grown
  | ask operation =>
      cases operation with
      | load package modules =>
          have asks_nothing : (Step.ask (.load package modules)).queries = [] := rfl
          rw [cost, asks_nothing, List.countP_nil, Nat.zero_add]
          exact balanced_load sound package modules
      | search limit query =>
          rw [cost_of_no_duplicates rfl]
          exact composes_balanced.search session limit query sound
      | searchLatest limit queries =>
          rw [cost_of_no_duplicates rfl]
          exact composes_balanced.searchLatest session limit queries sound
      | rank includeTypes limit query =>
          rw [cost_of_no_duplicates rfl]
          exact balanced_rank sound includeTypes limit query
      | warm =>
          rw [cost_of_no_duplicates rfl]
          exact balanced_warm sound
      | inspect =>
          have grown := Catalog.grown_map Slot.grows_view session.catalog.slots
          rw [← Function.comp_def Prod.snd Slot.view, ← List.map_map] at grown
          rw [cost_of_no_duplicates rfl]
          exact .of_grown sound grown
      | _ =>
          rw [cost_of_no_duplicates rfl]
          exact .of_sameCatalog sound rfl rfl rfl

/-- The texts that steps count beside the entries of the session. -/
def costs (session : Session) (steps : List Step) : Nat :=
  (steps.flatMap Step.queries).countP isRefused
    + if session.settings.eagerParse then
        ((session.allDuplicates steps).map Batch.refusedCount).sum else 0

theorem balanced_observe {session : Session} (sound : AllSound session.catalog.slots)
    (steps : List Step) : Balanced (session.costs steps) session (session.observe steps).2 := by
  rw [snd_observe]
  induction steps generalizing session with
  | nil =>
      have nothing : session.costs [] = 0 := by
        rw [costs, allDuplicates, List.flatMap_nil, List.countP_nil, List.map_nil, List.sum_nil,
          ite_self, Nat.add_zero]
      rw [nothing]
      exact .of_sameCatalog sound rfl rfl rfl
  | cons step steps ih =>
      have first := balanced_after sound step
      have both := first.trans (ih first.sound)
      have sum : session.costs (step :: steps) =
          session.cost step + (session.after step).costs steps := by
        rw [costs, cost, costs, allDuplicates, first.settings, List.flatMap_cons,
          List.countP_append, List.map_append, List.sum_append]
        split <;> omega
      rw [sum]
      exact both

/-- **Every refused text is counted once.**  After any steps, the texts that had to stand for
themselves are the refused queries, the refused entries whose signatures have been parsed, and, in a
session that works signatures out on loading, the refused entries of packages that were there
already.  Once everything has been worked out, every refused entry is among them. -/
theorem parseFallbacks_observe (settings : Settings) (steps : List Step) :
    let session := ((start settings).observe steps).2
    let queries := (steps.flatMap Step.queries).countP isRefused
    let lost :=
      if settings.eagerParse then
        (((start settings).allDuplicates steps).map Batch.refusedCount).sum else 0
    session.tally.parseFallbacks =
        queries
          + session.catalog.slots.countP
            (fun slot => slot.outcome.isSome && isRefused slot.entry.signature)
          + lost ∧
      session.warm.2.tally.parseFallbacks =
        queries + session.catalog.entries.countP (fun entry => isRefused entry.signature)
          + lost := by
  intro session queries lost
  have sound : AllSound (start settings).catalog.slots := fun _ listed => nomatch listed
  have run : Balanced (queries + lost) (start settings) session := balanced_observe sound steps
  have warmed : Balanced 0 session session.warm.2 := balanced_warm run.sound
  have settled : session.warm.2.counted =
      session.catalog.entries.countP fun entry => isRefused entry.signature := by
    change (session.catalog.slots.map Slot.settle).countP Slot.isCounted = _
    rw [Catalog.entries, List.countP_map, List.countP_map]
    refine List.countP_congr fun slot listed => ?_
    rw [Function.comp_apply, Function.comp_apply, Slot.isCounted_settle (run.sound slot listed)]
  have start_counted : (start settings).counted = 0 := rfl
  have start_fallbacks : (start settings).tally.parseFallbacks = 0 := rfl
  have now := run.balance
  have later := warmed.balance
  have counted : session.counted = session.catalog.slots.countP
      (fun slot => slot.outcome.isSome && isRefused slot.entry.signature) := rfl
  constructor <;> omega

end Session
end SignatureSearch
