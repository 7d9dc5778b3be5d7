import SignatureSearch.Proofs.Trace.Runs

/-!
# One trace, and packages apart

A package block gives back the context that was read when it was entered, whatever happens in it.
So a trace that is minted in a block has been minted before the block changes the context, and a
program that sets no context of its own reads one trace throughout: the one that it starts with, or
the first that is minted.
-/

namespace SignatureSearch
namespace Trace

/-- A step sets no context of its own. -/
def Step.SetsNothing : Step → Prop
  | set _ _ _ => False
  | _ => True

/-- The trace of a run is steady: nothing is read and there is no trace, or all that is read belongs
to one trace, to which the run comes and from which it does not depart. -/
inductive Steady (before : Tracer) (run : Run) : Prop
  /-- Nothing is read and there is no trace. -/
  | unread (start : before.trace? = none) (finish : run.tracer.trace? = none)
      (events : ∀ context, .returned context ∉ run.events)
  /-- All that is read belongs to one trace. -/
  | traced {id : Id} (start : before.trace? = none ∨ before.trace? = some id)
      (finish : run.tracer.trace? = some id)
      (events : ∀ context, .returned context ∈ run.events → context.trace = some id)

namespace Steady

variable {tracer : Tracer} {run first rest : Run}

/-- Where nothing is read and the trace stays, it is steady. -/
theorem of_quiet (same : run.tracer.trace? = tracer.trace?)
    (events : ∀ context, .returned context ∉ run.events) : Steady tracer run := by
  cases start : tracer.trace? with
  | none => exact .unread start (same.trans start) events
  | some id =>
      exact .traced (.inr start) (same.trans start) fun context read => absurd read (events context)

/-- A run in a trace stays in it. -/
theorem stays {id : Id} (steady : Steady tracer run) (start : tracer.trace? = some id) :
    run.tracer.trace? = some id ∧
      ∀ context, .returned context ∈ run.events → context.trace = some id := by
  cases steady with
  | unread none => exact absurd (start.symm.trans none) (by simp)
  | traced begun finish events =>
      rcases begun with none | same
      · exact absurd (start.symm.trans none) (by simp)
      · rw [start, Option.some.injEq] at same
        subst same
        exact ⟨finish, events⟩

/-- Only the trace at the start matters. -/
theorem of_start {other : Tracer} (steady : Steady other run)
    (same : other.trace? = tracer.trace?) : Steady tracer run := by
  cases steady with
  | unread start finish events => exact .unread (same ▸ start) finish events
  | traced start finish events => exact .traced (same ▸ start) finish events

/-- One run after another. -/
theorem append (one : Steady tracer first) (two : Steady first.tracer rest) :
    Steady tracer { rest with events := first.events ++ rest.events } := by
  cases one with
  | traced start finish events =>
      obtain ⟨later, others⟩ := two.stays finish
      exact .traced start later fun context read =>
        (List.mem_append.mp read).elim (events context) (others context)
  | unread start finish events =>
      cases two with
      | unread _ later others =>
          exact .unread start later fun context read =>
            (List.mem_append.mp read).elim (events context) (others context)
      | traced _ later others =>
          exact .traced (.inl start) later fun context read =>
            (List.mem_append.mp read).elim (absurd · (events context)) (others context)

/-- What is read comes before a run that starts where it was read, and the run may be left for the
context that was read. -/
theorem after_read {inside : Tracer} (steady : Steady inside run)
    (start : inside.trace? = tracer.read.2.trace?) {failure : Option String} :
    Steady tracer
      { tracer := run.tracer.restore tracer.read.2.current
        events := .returned tracer.read.1 :: run.events
        failure } := by
  obtain ⟨id, named, same, begun⟩ := tracer.trace_read
  have found : tracer.read.2.trace? = some id :=
    Tracer.trace?_eq_some_iff.mpr ⟨_, tracer.current_read, same, named⟩
  obtain ⟨-, events⟩ := steady.stays (start.trans found)
  refine .traced begun found fun context read => ?_
  rcases List.mem_cons.mp read with first | later
  · cases first
    exact same
  · exact events context later

end Steady

/-! ## Programs -/

namespace Step

mutual

theorem steady_run (step : Step) (unset : step.Throughout SetsNothing) (tracer : Tracer) :
    Steady tracer (step.run tracer) := by
  cases step with
  | set trace span fields => exact unset.elim
  | point span => exact .of_quiet (by rw [run, Tracer.trace?_point]) (by simp [run])
  | read =>
      have nothing : Steady tracer.read.2 { tracer := tracer.read.2 } := .of_quiet rfl (by simp)
      exact nothing.after_read rfl
  | package name body =>
      rw [run_package]
      exact (steady_runAll body unset.2 _).after_read (tracer.trace?_inPackage name)
  | span body =>
      have inside := steady_runAll body unset.2 tracer.inSpan
      rw [run_span]
      exact inside.of_start tracer.trace?_inSpan
  | fail text => exact .of_quiet rfl (by simp [run])
  | attempt body =>
      have inside := steady_runAll body unset.2 tracer
      have caught : Steady (runAll tracer body).tracer
          { tracer := (runAll tracer body).tracer
            events := ((runAll tracer body).failure.map Event.caught).toList } :=
        .of_quiet rfl (by cases (runAll tracer body).failure <;> simp)
      exact inside.append caught
  | observe label => exact .of_quiet rfl (by simp [run])

theorem steady_runAll (steps : List Step) (unset : AllThroughout SetsNothing steps)
    (tracer : Tracer) : Steady tracer (runAll tracer steps) := by
  cases steps with
  | nil => exact .of_quiet rfl (by simp [runAll])
  | cons step steps =>
      have first := steady_run step unset.1 tracer
      cases ended : (step.run tracer).failure with
      | some text =>
          rw [runAll_cons_of_failed ended]
          exact first
      | none =>
          rw [runAll_cons_of_done ended]
          exact first.append (steady_runAll steps unset.2 _)

end

end Step

/-- **Packages apart, and one trace.**  After a package block the context is the one that was read
when it was entered, with the ids that it had and those that were minted then; it is read again as
it is, and only the count of minted ids tells the block from reading.  In a program that sets no
context, all that is read belongs to one trace, which is the one at the start if there is one. -/
theorem packages_apart_one_trace :
    (∀ (tracer : Tracer) (name : String) (body : List Step),
      let block := Step.run tracer (.package name body)
      block.events.head? = some (.returned tracer.read.1) ∧
      block.tracer.current = some tracer.read.1 ∧
      block.tracer.read = (tracer.read.1, block.tracer) ∧
      block.tracer = { tracer.read.2 with minted := block.tracer.minted } ∧
      block.failure = (Step.runAll (tracer.inPackage name) body).failure ∧
      (∀ id, tracer.trace? = some id → tracer.read.1.trace = some id) ∧
      ∀ id, tracer.span? = some id → tracer.read.1.span = some id) ∧
    ∀ (tracer : Tracer) (program : List Step), Step.AllThroughout Step.SetsNothing program →
      ∃ id, id.isEmpty = false ∧
        (∀ context, .returned context ∈ (Step.runAll tracer program).events →
          context.trace = some id) ∧
        ∀ given, tracer.trace? = some given → given = id := by
  constructor
  · intro tracer name body block
    obtain ⟨id, named, trace, begun⟩ := tracer.trace_read
    have current : block.tracer.current = some tracer.read.1 := tracer.current_read
    refine ⟨rfl, current, Tracer.read_of_current current trace named, rfl, rfl, ?_, ?_⟩
    · intro given start
      rcases begun with none | same
      · cases none.symm.trans start
      · rw [trace, ← same, start]
    · exact fun _ => Tracer.span_read
  · intro tracer program unset
    cases Step.steady_runAll program unset tracer with
    | unread start _ events =>
        exact ⟨.given "trace", by decide, fun context read => absurd read (events context),
          fun given same => by cases start.symm.trans same⟩
    | @traced id start finish events =>
        obtain ⟨_, -, -, named⟩ := Tracer.trace?_eq_some_iff.mp finish
        refine ⟨id, named, events, fun given same => ?_⟩
        rcases start with none | same_id
        · cases none.symm.trans same
        · exact Option.some.inj (same.symm.trans same_id)

/-- Without a context at the start the trace is minted where the package is entered, and kept when
the package is left by a failure. -/
theorem packages_apart_one_trace_minted :
    let program : List Step :=
      [.point "s", .attempt [.package "core" [.span [.read, .fail "no"]]], .read]
    Step.AllThroughout Step.SetsNothing program ∧
      (∃ id, id.isEmpty = false ∧
        ∀ context, .returned context ∈ (Step.runAll {} program).events →
          context.trace = some id) ∧
      (Step.runAll {} program).events.map (fun
        | .returned context => context.trace
        | _ => none) =
          [some (.minted 1 traceLength), some (.minted 1 traceLength), none,
            some (.minted 1 traceLength)] := by
  intro program
  have unset : Step.AllThroughout Step.SetsNothing program := by
    simp [program, Step.AllThroughout, Step.Throughout, Step.SetsNothing]
  obtain ⟨id, named, same, -⟩ := packages_apart_one_trace.2 {} program unset
  exact ⟨unset, ⟨id, named, same⟩, by decide⟩

end Trace
end SignatureSearch
