import SignatureSearch.Proofs.Trace.Runs

/-!
# The span that a message carries

A span block points the context at its span and leaves it there; only package blocks give back the
context that they found.  So a message carries the span that was entered last, those of package
blocks that have been left aside.  This is the innermost open span just when no span has been left
since that one was entered, and the main statement is that a message carries a finished span in
every other case.
-/

namespace SignatureSearch
namespace Trace

/-! ## Ids by age -/

namespace Id

/-- An id was given, or was among the first so many that were minted. -/
def Before (count : Nat) : Id → Prop
  | given _ => True
  | minted serial _ => serial < count

/-- An id was minted, and was not among the first so many. -/
def Since (count : Nat) : Id → Prop
  | given _ => False
  | minted serial _ => count ≤ serial

variable {id other : Id} {count more : Nat}

theorem Since.of_le (since : id.Since more) (le : count ≤ more) : id.Since count := by
  cases id with
  | given text => exact since
  | minted serial length => exact Nat.le_trans le since

theorem Before.ne (before : id.Before count) (since : other.Since count) : id ≠ other := by
  rintro rfl
  cases id with
  | given text => exact since
  | minted serial length => exact absurd before (Nat.not_lt.mpr since)

end Id

/-! ## Scopes -/

/-- The spans that have to do with a message. -/
structure Scope where
  /-- The innermost span that is open. -/
  innermost : Option Id
  /-- The spans that have been left since it was entered, in the order in which they were entered.
  Those in a package block that has been left do not count. -/
  finished : List Id

namespace Scope

/-- The scope after spans have been entered and left. -/
def after (scope : Scope) (entered : List Id) : Scope :=
  { scope with finished := scope.finished ++ entered }

/-- The span of a scope that was entered last. -/
def last? (scope : Scope) : Option Id :=
  scope.finished.getLast?.or scope.innermost

variable {scope : Scope}

@[simp]
theorem after_nil : scope.after [] = scope := by
  rw [after, List.append_nil]

@[simp]
theorem after_after (first second : List Id) :
    (scope.after first).after second = scope.after (first ++ second) := by
  simp only [after, List.append_assoc]

/-- Once a span has been left, what was entered before it does not matter. -/
theorem last?_after_cons (own : Id) (others : List Id) :
    (scope.after (own :: others)).last? = (after ⟨some own, []⟩ others).last? := by
  simp [after, last?, List.getLast?_cons]

/-- Every finished span is younger than the innermost open one. -/
def Apart (scope : Scope) (count : Nat) : Prop :=
  ∃ opened ≤ count,
    (∀ id, scope.innermost = some id → id.Before opened) ∧
      ∀ id ∈ scope.finished, id.Since opened

/-- A context carries the span of a scope that was entered last, where so many ids have been
minted. -/
structure Describes (scope : Scope) (carried : Option Id) (count : Nat) : Prop where
  /-- The span that was entered last is carried. -/
  pointed : ∀ id, scope.last? = some id → carried = some id
  /-- It is told from the innermost open span by its age. -/
  apart : scope.Apart count

variable {count more : Nat} {entered : List Id}

theorem Apart.after (apart : scope.Apart count) (le : count ≤ more)
    (since : ∀ id ∈ entered, id.Since count) : (scope.after entered).Apart more := by
  obtain ⟨opened, before, older, younger⟩ := apart
  refine ⟨opened, Nat.le_trans before le, older, fun id listed => ?_⟩
  exact (List.mem_append.mp listed).elim (younger id) fun held => (since id held).of_le before

theorem Apart.mono (apart : scope.Apart count) (le : count ≤ more) : scope.Apart more := by
  rw [← scope.after_nil]
  exact apart.after le (by simp)

/-- The innermost open span is not among the finished ones. -/
theorem Apart.ne {id last : Id} (apart : scope.Apart count) (inner : scope.innermost = some id)
    (left : last ∈ scope.finished) : id ≠ last := by
  obtain ⟨opened, -, older, younger⟩ := apart
  exact (older id inner).ne (younger last left)

/-- A message of a scope carries the innermost open span just when nothing has finished in it. -/
theorem Describes.carries_iff {carried : Option Id} {id : Id}
    (describes : scope.Describes carried count) (inner : scope.innermost = some id) :
    carried = some id ↔ scope.finished = [] := by
  constructor
  · intro same
    cases ends : scope.finished.getLast? with
    | none => exact List.getLast?_eq_none_iff.mp ends
    | some last =>
        have carries := describes.pointed last (by rw [last?, ends, Option.some_or])
        rw [same, Option.some.injEq] at carries
        exact absurd carries (describes.apart.ne inner (List.mem_of_getLast? ends))
  · intro none_left
    exact describes.pointed id (by rw [last?, none_left, inner]; rfl)

end Scope

/-! ## Spans and messages of a program -/

namespace Step

mutual

/-- The spans that a step enters, in order, apart from those in package blocks. -/
def entered (tracer : Tracer) : Step → List Id
  | span body => .minted tracer.minted spanLength :: enteredAll tracer.inSpan body
  | attempt body => enteredAll tracer body
  | set _ _ _ | point _ | read | package _ _ | fail _ | observe _ => []

/-- The spans that steps enter, in order, apart from those in package blocks. -/
def enteredAll (tracer : Tracer) : List Step → List Id
  | [] => []
  | step :: steps =>
      step.entered tracer ++
        match (step.run tracer).failure with
        | some _ => []
        | none => enteredAll (step.run tracer).tracer steps

end

mutual

/-- The contexts that a step reads for messages, each with its scope. -/
def messages (scope : Scope) (tracer : Tracer) : Step → List (Scope × Context)
  | read => [(scope, tracer.read.1)]
  | package name body =>
      (scope, tracer.read.1) :: messagesAll scope (tracer.inPackage name) body
  | span body => messagesAll ⟨some (.minted tracer.minted spanLength), []⟩ tracer.inSpan body
  | attempt body => messagesAll scope tracer body
  | set _ _ _ | point _ | fail _ | observe _ => []

/-- The contexts that steps read for messages, each with its scope. -/
def messagesAll (scope : Scope) (tracer : Tracer) : List Step → List (Scope × Context)
  | [] => []
  | step :: steps =>
      step.messages scope tracer ++
        match (step.run tracer).failure with
        | some _ => []
        | none =>
            messagesAll (scope.after (step.entered tracer)) (step.run tracer).tracer steps

end

/-- A step gives no id. -/
def GivesNoId : Step → Prop
  | set _ _ _ | point _ => False
  | _ => True

end Step

/-- The context that an event shows to have been read. -/
def Event.read? : Event → Option Context
  | returned context => some context
  | _ => none

namespace Step

/-! ## Messages are what is read -/

mutual

theorem map_messages (step : Step) (scope : Scope) (tracer : Tracer) :
    (step.messages scope tracer).map Prod.snd =
      (step.run tracer).events.filterMap Event.read? := by
  cases step with
  | package name body =>
      rw [messages, run_package, List.map_cons, map_messagesAll]
      rfl
  | span body =>
      rw [messages, run_span, map_messagesAll]
  | attempt body =>
      rw [messages, map_messagesAll, run, List.filterMap_append]
      cases (runAll tracer body).failure <;> simp [Event.read?]
  | _ => rfl

theorem map_messagesAll (steps : List Step) (scope : Scope) (tracer : Tracer) :
    (messagesAll scope tracer steps).map Prod.snd =
      (runAll tracer steps).events.filterMap Event.read? := by
  cases steps with
  | nil => rfl
  | cons step steps =>
      rw [messagesAll, List.map_append, map_messages]
      cases ended : (step.run tracer).failure with
      | some text =>
          rw [runAll_cons_of_failed ended]
          exact List.append_nil _
      | none =>
          rw [runAll_cons_of_done ended, List.filterMap_append]
          exact congrArg _ (map_messagesAll steps _ _)

end

/-! ## Spans are minted one after another -/

mutual

theorem entered_since (step : Step) (tracer : Tracer) :
    tracer.minted ≤ (step.run tracer).tracer.minted ∧
      ∀ id ∈ step.entered tracer, id.Since tracer.minted := by
  cases step with
  | read => exact ⟨tracer.minted_le_read, by simp [entered]⟩
  | package name body =>
      refine ⟨?_, by simp [entered]⟩
      exact Nat.le_trans tracer.minted_le_read (enteredAll_since body (tracer.inPackage name)).1
  | span body =>
      obtain ⟨le, since⟩ := enteredAll_since body tracer.inSpan
      rw [Tracer.minted_inSpan] at le since
      refine ⟨by rw [run_span]; omega, ?_⟩
      rw [entered, List.forall_mem_cons]
      exact ⟨Nat.le_refl _, fun id listed => (since id listed).of_le (Nat.le_succ _)⟩
  | attempt body => exact enteredAll_since body tracer
  | _ => exact ⟨Nat.le_refl _, by simp [entered]⟩

theorem enteredAll_since (steps : List Step) (tracer : Tracer) :
    tracer.minted ≤ (runAll tracer steps).tracer.minted ∧
      ∀ id ∈ enteredAll tracer steps, id.Since tracer.minted := by
  cases steps with
  | nil => exact ⟨Nat.le_refl _, by simp [enteredAll]⟩
  | cons step steps =>
      obtain ⟨le, since⟩ := entered_since step tracer
      rw [enteredAll]
      cases ended : (step.run tracer).failure with
      | some text =>
          rw [runAll_cons_of_failed ended]
          exact ⟨le, by simpa using since⟩
      | none =>
          obtain ⟨later, others⟩ := enteredAll_since steps (step.run tracer).tracer
          rw [runAll_cons_of_done ended]
          refine ⟨Nat.le_trans le later, fun id listed => ?_⟩
          exact (List.mem_append.mp listed).elim (since id) fun held => (others id held).of_le le

end

/-! ## What messages carry -/

theorem describes_read {scope : Scope} {tracer : Tracer}
    (start : scope.Describes tracer.span? tracer.minted) :
    scope.Describes tracer.read.1.span tracer.read.2.minted :=
  ⟨fun id last => Tracer.span_read (start.pointed id last), start.apart.mono tracer.minted_le_read⟩

theorem describes_inSpan (tracer : Tracer) :
    Scope.Describes ⟨some (.minted tracer.minted spanLength), []⟩ tracer.inSpan.span?
      tracer.inSpan.minted :=
  ⟨fun _ last => last, tracer.minted + 1, Nat.le_refl _,
    fun _ same => by cases same; exact Nat.lt_succ_self _, by simp⟩

mutual

/-- A scope that describes the context before a step describes it afterwards, with the spans that
the step has entered, and every message of the step is described by its own scope. -/
theorem describes_run (step : Step) (plain : step.Throughout GivesNoId) {scope : Scope}
    {tracer : Tracer} (start : scope.Describes tracer.span? tracer.minted) :
    (scope.after (step.entered tracer)).Describes (step.run tracer).tracer.span?
        (step.run tracer).tracer.minted ∧
      ∀ message ∈ step.messages scope tracer,
        ∃ count, message.1.Describes message.2.span count := by
  cases step with
  | set trace span fields => exact plain.elim
  | point span => exact plain.elim
  | read =>
      have found := describes_read start
      rw [entered, Scope.after_nil, messages, List.forall_mem_singleton]
      refine ⟨?_, _, found⟩
      rw [run, Tracer.span?_read]
      exact found
  | package name body =>
      have found := describes_read start
      have inside : scope.Describes (tracer.inPackage name).span? (tracer.inPackage name).minted := by
        rw [Tracer.span?_inPackage, Tracer.minted_inPackage]
        exact found
      obtain ⟨-, others⟩ := describes_runAll body plain.2 inside
      have le := (entered_since (package name body) tracer).1
      rw [entered, Scope.after_nil, messages, List.forall_mem_cons]
      refine ⟨⟨?_, start.apart.mono le⟩, ⟨_, found⟩, others⟩
      rw [run_package, Tracer.span?_restore, Tracer.span?_read]
      exact found.pointed
  | span body =>
      obtain ⟨inside, others⟩ := describes_runAll body plain.2 (describes_inSpan tracer)
      obtain ⟨le, since⟩ := entered_since (span body) tracer
      refine ⟨⟨?_, start.apart.after le since⟩, others⟩
      -- The block leaves the context as its body did, where its own span was entered first.
      rw [entered, Scope.last?_after_cons]
      exact inside.pointed
  | attempt body => exact describes_runAll body plain.2 start
  | fail text => simpa [entered, messages, run] using start
  | observe label => simpa [entered, messages, run] using start

theorem describes_runAll (steps : List Step) (plain : AllThroughout GivesNoId steps) {scope : Scope}
    {tracer : Tracer} (start : scope.Describes tracer.span? tracer.minted) :
    (scope.after (enteredAll tracer steps)).Describes (runAll tracer steps).tracer.span?
        (runAll tracer steps).tracer.minted ∧
      ∀ message ∈ messagesAll scope tracer steps,
        ∃ count, message.1.Describes message.2.span count := by
  cases steps with
  | nil => simpa [enteredAll, messagesAll, runAll] using start
  | cons step steps =>
      obtain ⟨first, messages⟩ := describes_run step plain.1 start
      rw [enteredAll, messagesAll]
      cases ended : (step.run tracer).failure with
      | some text =>
          rw [runAll_cons_of_failed ended, List.append_nil, List.append_nil]
          exact ⟨first, messages⟩
      | none =>
          obtain ⟨rest, others⟩ := describes_runAll steps plain.2 first
          rw [runAll_cons_of_done ended, ← Scope.after_after]
          exact ⟨rest, List.forall_mem_append.mpr ⟨messages, others⟩⟩

end

end Step

/-- **What messages carry.**  In a program that is given no ids, each message carries the span that
finished last since the innermost open span was entered, and that open span just when none has.  So
a span block never gives back the span that it found: when it is left, normally or by a failure, the
context points at the last span that was entered in it.  The span at the start counts as open; it is
any but one that is yet to be minted. -/
theorem spans_carried (tracer : Tracer) (program : List Step)
    (plain : Step.AllThroughout Step.GivesNoId program)
    (older : ∀ id, tracer.span? = some id → id.Before tracer.minted) :
    (Step.messagesAll ⟨tracer.span?, []⟩ tracer program).map Prod.snd =
        (Step.runAll tracer program).events.filterMap Event.read? ∧
      (∀ message ∈ Step.messagesAll ⟨tracer.span?, []⟩ tracer program,
        (∀ last, message.1.finished.getLast? = some last → message.2.span = some last) ∧
        ∀ id, message.1.innermost = some id →
          (message.2.span = some id ↔ message.1.finished = [])) ∧
      (Step.run tracer (.span program)).tracer.span? =
        (Step.entered tracer (.span program)).getLast? ∧
      (Step.run tracer (.span program)).tracer.span? ≠ tracer.span? := by
  have start : Scope.Describes ⟨tracer.span?, []⟩ tracer.span? tracer.minted :=
    ⟨fun _ last => last, tracer.minted, Nat.le_refl _, older, by simp⟩
  refine ⟨Step.map_messagesAll program _ tracer, fun message listed => ?_, ?_⟩
  · obtain ⟨count, describes⟩ := (Step.describes_runAll program plain start).2 message listed
    exact ⟨fun last left => describes.pointed last (by rw [Scope.last?, left, Option.some_or]),
      fun id => describes.carries_iff⟩
  · -- The last span of the block was minted in it, so it is not the one from before.
    let block := Step.span program
    have left := (Step.describes_run block ⟨trivial, plain⟩ start).1
    have since := (Step.entered_since block tracer).2
    obtain ⟨last, ends⟩ : ∃ last, (block.entered tracer).getLast? = some last :=
      ⟨_, List.getLast?_eq_some_getLast (List.cons_ne_nil _ _)⟩
    have points := left.pointed last (by simp [Scope.last?, Scope.after, ends])
    refine ⟨points.trans ends.symm, fun same => ?_⟩
    have held := same.symm.trans points
    exact (older last held).ne (since last (List.mem_of_getLast? ends)) rfl

/-- In a program with a failure in an inner span, inside a package, the two messages after that span
and in it carry it, and the one after the package carries the outer span again. -/
theorem spans_carried_package :
    let tracer := Tracer.set {} "t" "s" .empty
    let program : List Step :=
      [.span [.package "core" [.attempt [.span [.read, .fail "no"]], .read], .read]]
    (Step.AllThroughout Step.GivesNoId program ∧
      ∀ id, tracer.span? = some id → id.Before tracer.minted) ∧
    (∀ message ∈ Step.messagesAll ⟨tracer.span?, []⟩ tracer program,
      ∀ id, message.1.innermost = some id →
        (message.2.span = some id ↔ message.1.finished = [])) ∧
    (Step.messagesAll ⟨tracer.span?, []⟩ tracer program).map
        (fun message => (message.1.innermost, message.1.finished, message.2.span)) =
      [(some (.minted 0 16), [], some (.minted 0 16)),
        (some (.minted 1 16), [], some (.minted 1 16)),
        (some (.minted 0 16), [.minted 1 16], some (.minted 1 16)),
        (some (.minted 0 16), [], some (.minted 0 16))] := by
  intro tracer program
  have plain : Step.AllThroughout Step.GivesNoId program := by
    simp [program, Step.AllThroughout, Step.Throughout, Step.GivesNoId]
  have older : ∀ id, tracer.span? = some id → id.Before tracer.minted := by
    rintro id same
    cases same
    trivial
  obtain ⟨-, carried, -⟩ := spans_carried tracer program plain older
  exact ⟨⟨plain, older⟩, fun message listed => (carried message listed).2, by decide⟩

/-- A span block leaves the context at its own span, and a message in the block around it carries
that finished span. -/
theorem spans_not_given_back :
    ¬ (∀ (tracer : Tracer) (body : List Step), Step.AllThroughout Step.GivesNoId body →
        (Step.run tracer (.span body)).tracer.span? = tracer.span?) ∧
    ¬ (∀ (tracer : Tracer) (program : List Step), Step.AllThroughout Step.GivesNoId program →
        ∀ message ∈ Step.messagesAll ⟨tracer.span?, []⟩ tracer program,
          message.2.span = message.1.innermost) := by
  constructor
  · intro given_back
    have same := given_back (.set {} "t" "s" .empty) [] trivial
    exact absurd same (by decide)
  · intro carries
    let program : List Step := [.span [.span [], .read]]
    have plain : Step.AllThroughout Step.GivesNoId program := by
      simp [program, Step.AllThroughout, Step.Throughout, Step.GivesNoId]
    have same : ∀ spans ∈ (Step.messagesAll ⟨some (.given "s"), []⟩ (.set {} "t" "s" .empty)
        program).map (fun message => (message.2.span, message.1.innermost)), spans.1 = spans.2 :=
      List.forall_mem_map.mpr (carries (.set {} "t" "s" .empty) program plain)
    exact absurd same (by decide)

end Trace
end SignatureSearch
