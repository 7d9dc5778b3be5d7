import SignatureSearch.Proofs.Session.Failures
import SignatureSearch.Proofs.Session.Reachable

/-!
# Queries and loads are counted once

Every query that runs is counted once and timed once, under its own mode, and none is counted as
failed, since ranking refuses no query.  Every load is timed once, and the modules that it leaves
out are counted for its package, whether the package is then added or refused.  So the counts of a
session can be read off what it was asked.
-/

namespace SignatureSearch
namespace Session

open Catalog (Batch Delivery)
open Search (Mode)

/-- The package that a step gives to be loaded. -/
def Step.loads : Step → List Delivery
  | .ask (.load package modules) => [{ package, modules }]
  | _ => []

/-- How many modules of a package are left out of deliveries. -/
def leftOut (package : String) (loads : List Delivery) : Nat :=
  ((loads.filter fun delivery => delivery.package = package).map fun delivery =>
    (Batch.unsound delivery.package delivery.modules).length).sum

theorem leftOut_append (package : String) (first second : List Delivery) :
    leftOut package (first ++ second) = leftOut package first + leftOut package second := by
  rw [leftOut, List.filter_append, List.map_append, List.sum_append]
  rfl

/-- Between two tallies, some queries have been run and some packages given to be loaded. -/
structure Counts (queries : List String) (loads : List Delivery) (before after : Tally) : Prop where
  /-- Every query is counted under its mode. -/
  ok : ∀ mode, (after.queries mode).ok = (before.queries mode).ok + queries.countP (asks mode)
  /-- Every query is timed under its mode. -/
  timed : ∀ mode,
    (after.queries mode).timed = (before.queries mode).timed + queries.countP (asks mode)
  /-- No query fails. -/
  failed : ∀ mode, (after.queries mode).failed = (before.queries mode).failed
  /-- Every load is timed. -/
  loadsTimed : after.loadsTimed = before.loadsTimed + loads.length
  /-- Every module that is left out is counted. -/
  failures : ∀ package,
    after.failuresOf package = before.failuresOf package + leftOut package loads

namespace Counts

variable {queries more : List String} {loads others : List Delivery} {before after last : Tally}

/-- Texts that turn out to be no signatures are counted apart. -/
theorem of_fallbacks (tally : Tally) (parseFallbacks : Nat) :
    Counts [] [] tally { tally with parseFallbacks } :=
  ⟨fun _ => rfl, fun _ => rfl, fun _ => rfl, rfl, fun _ => rfl⟩

theorem refl (tally : Tally) : Counts [] [] tally tally :=
  of_fallbacks tally tally.parseFallbacks

theorem trans (one : Counts queries loads before after) (two : Counts more others after last) :
    Counts (queries ++ more) (loads ++ others) before last where
  ok mode := by rw [two.ok, one.ok, List.countP_append, Nat.add_assoc]
  timed mode := by rw [two.timed, one.timed, List.countP_append, Nat.add_assoc]
  failed mode := (two.failed mode).trans (one.failed mode)
  loadsTimed := by rw [two.loadsTimed, one.loadsTimed, List.length_append, Nat.add_assoc]
  failures package := by rw [two.failures, one.failures, leftOut_append, Nat.add_assoc]

end Counts

/-! ## Queries -/

theorem queries_onQueries (tally : Tally) (change : QueryCount → QueryCount) (own mode : Mode) :
    (tally.onQueries change own).queries mode =
      if own = mode then change (tally.queries mode) else tally.queries mode := by
  cases own <;> cases mode <;> rfl

section Queries

variable (session : Session) (limit : Option Int)

theorem counts_rank (includeTypes : Bool) (query : String) :
    Counts [query] [] session.tally (session.rank includeTypes limit query).2.tally := by
  obtain ⟨found, slots, -, -, -, -, -, tally⟩ := session.rank_spec includeTypes limit query
  have loads := ofLoads_rank session limit includeTypes query
  have failures : (session.rank includeTypes limit query).2.tally.moduleFailures =
      session.tally.moduleFailures := congrArg (·.2.1) loads
  have here (mode : Mode) : [query].countP (asks mode) =
      if Search.classify (Signature.parse query) = mode then 1 else 0 := by
    rw [List.countP_singleton, asks]
    exact if_congr (decide_eq_true_iff) rfl rfl
  refine ⟨fun mode => ?_, fun mode => ?_, fun mode => ?_, congrArg (·.1) loads, fun package => ?_⟩
  · rw [tally, queries_onQueries, here]
    split <;> rfl
  · rw [tally, queries_onQueries, here]
    split <;> rfl
  · rw [tally, queries_onQueries]
    split <;> rfl
  · rw [Tally.failuresOf, failures]
    rfl

theorem counts_present (ranking : Ranking) :
    Counts [] [] session.tally (session.present ranking).2.tally :=
  .of_fallbacks session.tally _

end Queries

/-- Every query that is run is counted, also one that is overtaken. -/
theorem composes_counts :
    Composes fun queries before after => Counts queries [] before.tally after.tally where
  refl session := .refl session.tally
  trans one two := one.trans two
  ranked session _ query := session.counts_rank _ _ query
  shown session ranking := session.counts_present ranking
  noted session _ := .refl session.tally
  begun session _ := .refl session.tally

/-! ## Loads -/

/-- Loading times itself and counts the modules left out, whatever else it counts. -/
theorem tally_load (session : Session) (package : String) (modules : List Docs.ModuleDocs) :
    ∃ parseFallbacks indexedEntries,
      (session.load package modules).2.tally =
        { session.tally.leaveOut package (Batch.ofModules package modules).corruptions.length with
          parseFallbacks, indexedEntries, loadsTimed := session.tally.loadsTimed + 1 } := by
  let batch := Batch.ofModules package modules
  have left : (session.leaveOut batch).tally =
      session.tally.leaveOut package batch.corruptions.length := by
    rw [tally_leaveOut, Batch.package_ofModules]
  have timed : (session.leaveOut batch).tally.loadsTimed = session.tally.loadsTimed := by
    rw [left, Tally.leaveOut]
    split <;> rfl
  rw [← left, ← timed, load, add]
  cases Catalog.add _ _ _ <;> exact ⟨_, _, rfl⟩

theorem queries_leaveOut (tally : Tally) (package : String) (count : Nat) (mode : Mode) :
    (tally.leaveOut package count).queries mode = tally.queries mode := by
  rw [Tally.leaveOut]
  split
  · rfl
  · cases mode <;> rfl

/-- Every load is counted, also one that is refused. -/
theorem counts_load (session : Session) (package : String) (modules : List Docs.ModuleDocs) :
    Counts [] [{ package, modules }] session.tally (session.load package modules).2.tally := by
  obtain ⟨parseFallbacks, indexedEntries, tally⟩ := session.tally_load package modules
  have queries (mode : Mode) :
      (session.load package modules).2.tally.queries mode = session.tally.queries mode := by
    rw [tally, ← queries_leaveOut session.tally package
      (Batch.ofModules package modules).corruptions.length]
    cases mode <;> rfl
  refine ⟨fun mode => ?_, fun mode => ?_, fun mode => ?_, ?_, fun other => ?_⟩
  · rw [queries, List.countP_nil, Nat.add_zero]
  · rw [queries, List.countP_nil, Nat.add_zero]
  · rw [queries]
  · rw [tally]
    rfl
  · rw [failuresOf_load, leftOut]
    by_cases same : other = package
    · simp [same]
    · simp [same, Ne.symm same]

/-! ## Whole sessions -/

/-- What one step counts. -/
theorem counts_after (session : Session) (step : Step) :
    Counts step.queries step.loads session.tally (session.after step).tally := by
  cases step with
  | look position aspect => exact .of_fallbacks session.tally _
  | ask operation =>
      cases operation with
      | load package modules => exact session.counts_load package modules
      | search limit query => exact composes_counts.search session limit query
      | searchLatest limit queries => exact composes_counts.searchLatest session limit queries
      | rank includeTypes limit query => exact session.counts_rank limit includeTypes query
      | warm => exact .of_fallbacks session.tally _
      | inspect => exact .of_fallbacks session.tally _
      | _ => exact .refl session.tally

theorem counts_observe (session : Session) (steps : List Step) :
    Counts (steps.flatMap Step.queries) (steps.flatMap Step.loads) session.tally
      (session.observe steps).2.tally := by
  rw [snd_observe]
  induction steps generalizing session with
  | nil => exact .refl session.tally
  | cons step steps ih => exact (session.counts_after step).trans (ih _)

/-- **Queries and loads are counted once.**  After any steps, as many queries of a mode have been
answered and timed as have been run and are of that mode, and none has failed; as many loads have
been timed as there were, whether packages were added or refused; and of every package as many
modules have been counted as left out as were left out of all its loads. -/
theorem tally_observe (settings : Settings) (steps : List Step) :
    let tally := ((start settings).observe steps).2.tally
    let queries := steps.flatMap Step.queries
    let loads := steps.flatMap Step.loads
    (∀ mode,
      (tally.queries mode).ok = queries.countP (asks mode) ∧
      (tally.queries mode).timed = (tally.queries mode).ok ∧
      (tally.queries mode).failed = 0) ∧
    tally.loadsTimed = loads.length ∧
    ∀ package, tally.failuresOf package = leftOut package loads := by
  intro tally queries loads
  have counts : Counts queries loads {} tally := (start settings).counts_observe steps
  have none (mode : Mode) : (({} : Tally).queries mode) = {} := by cases mode <;> rfl
  refine ⟨fun mode => ?_, ?_, fun package => ?_⟩
  · have ok := counts.ok mode
    have timed := counts.timed mode
    have failed := counts.failed mode
    rw [none, Nat.zero_add] at ok timed
    rw [none] at failed
    exact ⟨ok, timed.trans ok.symm, failed⟩
  · rw [counts.loadsTimed, Nat.zero_add]
  · rw [counts.failures]
    exact Nat.zero_add _

/-- A package is refused the second time, and what it leaves out is counted again. -/
example :
    let broken : Docs.ModuleDocs :=
      { name := "Broken", comment := "\n@docs lost", entries := .ofRows [], named := by decide }
    let tally := ((start {}).observe
      [.ask (.load "core" [broken]), .ask (.load "core" [broken, broken])]).2.tally
    tally.loadsTimed = 2 ∧ tally.failuresOf "core" = 3 ∧ tally.failuresOf "html" = 0 := by
  decide +kernel

end Session
end SignatureSearch
