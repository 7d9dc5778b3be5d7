import SignatureSearch.Proofs.Session.Loads

/-!
# What is worked out early does not show

Signatures can be worked out when a package is loaded, when a session is warmed up, when an entry is
looked at, or when a query needs it.  None of it shows in the answers of a session: two sessions
that are asked the same give the same answers, whatever has been worked out in between.
-/

namespace SignatureSearch
namespace Catalog

/-- What can be seen of an entry beside the entry itself. -/
inductive Aspect where
  /-- What came of parsing the signature. -/
  | outcome
  /-- The type as it is shown. -/
  | typeText
  /-- The canonical form of the type. -/
  | normalized
  deriving DecidableEq, Repr

/-- The slot that keeps what it took to see an aspect of its entry. -/
def Slot.see (slot : Slot) : Aspect → Slot
  | .outcome => slot.readOutcome.2
  | .typeText => slot.readTypeText.2
  | .normalized => slot.readNormalized.2

theorem Slot.entry_see (slot : Slot) (aspect : Aspect) : (slot.see aspect).entry = slot.entry := by
  cases aspect with
  | outcome => exact slot.entry_readOutcome
  | typeText => exact slot.entry_readTypeText
  | normalized => exact slot.entry_readNormalized

theorem Slot.Faithful.see {slot : Slot} (faithful : slot.Faithful) (aspect : Aspect) :
    (slot.see aspect).Faithful := by
  cases aspect with
  | outcome => exact faithful.readOutcome
  | typeText => exact faithful.readTypeText
  | normalized => exact faithful.readNormalized

end Catalog

namespace Session

open Catalog (Aspect Slot)
open Search (AllFaithful)

/-- The session after an aspect of the entry at a position has been seen. -/
def look (session : Session) (position : Nat) (aspect : Aspect) : Session :=
  session.keep (session.catalog.slots.modify position fun slot => slot.see aspect)

/-- Something that happens to a session: an operation, or a look at one entry. -/
inductive Step where
  /-- The session is asked to do something. -/
  | ask (operation : Operation)
  /-- An aspect of the entry at a position is seen. -/
  | look (position : Nat) (aspect : Aspect)

/-- The answer to an operation does not tell what has been worked out. -/
def Operation.isPlain : Operation → Bool
  | .warm | .inspect | .cached | .tally => false
  | _ => true

/-- The operation that a step asks for, if its answer does not tell what has been worked out. -/
def Step.plain? : Step → Option Operation
  | .ask operation => if operation.isPlain then some operation else none
  | .look _ _ => none

/-- Go through steps, and give the answers that do not tell what has been worked out. -/
def observe (session : Session) : List Step → List Answer × Session
  | [] => ([], session)
  | .look position aspect :: steps => (session.look position aspect).observe steps
  | .ask operation :: steps =>
      match session.perform operation with
      | (answer, session) =>
          match session.observe steps with
          | (answers, session) =>
              (if operation.isPlain then answer :: answers else answers, session)

theorem agree_look {session : Session} (faithful : session.Faithful) (position : Nat)
    (aspect : Aspect) : Agree session (session.look position aspect) := by
  refine agree_keep faithful ?_ ?_
  · refine List.ext_getElem? fun index => ?_
    rw [Catalog.entries, List.getElem?_map, List.getElem?_map, List.getElem?_modify]
    cases session.catalog.slots[index]? with
    | none => split <;> rfl
    | some slot =>
        split
        · exact congrArg some (slot.entry_see aspect)
        · rfl
  · intro slot member
    obtain ⟨index, listed⟩ := List.mem_iff_getElem?.mp member
    rw [List.getElem?_modify, Option.map_eq_map, Option.map_eq_some_iff] at listed
    obtain ⟨before, inside, rfl⟩ := listed
    have kept := faithful before (List.mem_of_getElem? inside)
    split
    · exact kept.see aspect
    · exact kept

/-- An operation whose answer tells what has been worked out changes nothing else. -/
theorem agree_perform {session : Session} (faithful : session.Faithful) {operation : Operation}
    (telling : operation.isPlain = false) : Agree session (session.perform operation).2 := by
  cases operation with
  | warm => exact agree_warm faithful
  | inspect => exact agree_inspect faithful
  | cached => exact .refl faithful
  | tally => exact .refl faithful
  | _ => cases telling

/-- Sessions that agree answer every other operation alike, and agree afterwards. -/
theorem perform_of_agree {session other : Session} (agree : Agree session other)
    {operation : Operation} (plain : operation.isPlain = true) :
    (session.perform operation).1 = (other.perform operation).1 ∧
      Agree (session.perform operation).2 (other.perform operation).2 := by
  have both {after after' : Session} (one : Agree session after) (two : Agree other after') :
      Agree after after' :=
    one.symm.trans (agree.trans two)
  cases operation with
  | load package modules =>
      obtain ⟨same, after⟩ := load_of_agree agree ⟨package, modules⟩
      exact ⟨congrArg Answer.loaded same, after⟩
  | search limit query =>
      exact ⟨congrArg Answer.found (fst_search agree limit query),
        both (agree_search agree.faithful limit query)
          (agree_search agree.otherFaithful limit query)⟩
  | searchLatest limit queries =>
      obtain ⟨same, after⟩ := searchLatest_of_agree agree limit queries
      exact ⟨congrArg Answer.foundLatest same, after⟩
  | rank includeTypes limit query =>
      have same : (session.rank includeTypes limit query).1 =
          (other.rank includeTypes limit query).1 := by
        rw [fst_rank agree.faithful, fst_rank agree.otherFaithful, agree.entries]
      exact ⟨congrArg Answer.ranked same,
        both (agree_rank agree.faithful includeTypes limit query)
          (agree_rank agree.otherFaithful includeTypes limit query)⟩
  | size => exact ⟨congrArg Answer.size agree.size, agree⟩
  | packages =>
      refine ⟨?_, agree⟩
      rw [perform, perform, Catalog.packages, Catalog.packages, agree.shelves]
  | names package =>
      refine ⟨?_, agree⟩
      rw [perform, perform, Catalog.names, Catalog.names, agree.shelves]
  | link package name =>
      refine ⟨?_, agree⟩
      rw [perform, perform, Catalog.linkTarget?, Catalog.linkTarget?, Catalog.names, Catalog.names,
        agree.shelves]
  | pages package =>
      refine ⟨?_, agree⟩
      rw [perform, perform, Catalog.pages, Catalog.pages, agree.shelves]
  | _ => cases plain

/-- A session answers as a session that agrees with it and is asked the same and no more. -/
theorem observe_of_agree {session other : Session} (agree : Agree session other)
    (steps : List Step) :
    (session.observe steps).1 = (other.performAll (steps.filterMap Step.plain?)).1 := by
  induction steps generalizing session other with
  | nil => rfl
  | cons step steps ih =>
      cases step with
      | look position aspect =>
          -- The other session stays where it is.
          have looked := agree_look agree.faithful position aspect
          exact ih (looked.symm.trans agree)
      | ask operation =>
          cases plain : operation.isPlain with
          | false =>
              have performed := agree_perform agree.faithful plain
              have rest := ih (performed.symm.trans agree)
              have skipped : (Step.ask operation).plain? = none := by
                rw [Step.plain?, plain]
                rfl
              rw [observe, List.filterMap_cons_none skipped, plain]
              exact rest
          | true =>
              obtain ⟨same, after⟩ := perform_of_agree agree plain
              have rest := ih after
              have asked : (Step.ask operation).plain? = some operation := by
                rw [Step.plain?, plain]
                rfl
              rw [observe, List.filterMap_cons_some asked, plain]
              exact congrArg₂ List.cons same rest

/-- **What is worked out early does not show.**  Two sessions that give equally many results and
search the same in an entry, and that are asked the same, give the same answers, whether they work
signatures out when packages are loaded or not, and whatever is warmed up and looked at in
between. -/
theorem observe_start {settings other : Settings} {steps others : List Step}
    (maxResults : settings.maxResults = other.maxResults)
    (includesTypes : settings.nameSearchIncludesTypes = other.nameSearchIncludesTypes)
    (common : steps.filterMap Step.plain? = others.filterMap Step.plain?) :
    ((start settings).observe steps).1 = ((start other).observe others).1 := by
  have agree : Agree (start other) (start settings) :=
    ⟨rfl, rfl, rfl, maxResults.symm, includesTypes.symm, faithful_start other,
      faithful_start settings⟩
  rw [observe_of_agree (.refl (faithful_start settings)) steps, observe_of_agree agree others,
    common]

theorem observe_start_warmed :
    let basics : Docs.ModuleDocs :=
      { name := "Basics", comment := "", entries := .ofRows [("ignore", ⟨"a -> ()", ""⟩)]
        named := by decide }
    ((start {}).observe
        [.ask (.load "core" [basics]), .ask (.search none "b -> ()"), .ask .packages]).1 =
      ((start { eagerParse := true }).observe
        [.ask .warm, .ask (.load "core" [basics]), .look 0 .typeText,
          .ask (.search none "b -> ()"), .ask .inspect, .ask .packages]).1 := by
  intro basics
  exact observe_start rfl rfl rfl

end Session
end SignatureSearch
