import SignatureSearch.Trace.Program

/-!
# Reading and running

What each operation of a tracer does to the trace and to the span of its context, and how the steps
of a program follow one another.  Reading is the only operation that settles anything: from then on
the context is the one that was read, and reading again changes nothing.
-/

namespace SignatureSearch
namespace Trace

namespace Tracer

variable {tracer : Tracer}

/-- The span of the context that holds. -/
def span? (tracer : Tracer) : Option Id :=
  tracer.current.bind Context.span

/-- The trace of the context that holds, unless its id is empty. -/
def trace? (tracer : Tracer) : Option Id :=
  (tracer.current.bind Context.trace).filter fun id => !id.isEmpty

@[simp]
theorem span?_restore (other : Tracer) : (tracer.restore other.current).span? = other.span? := rfl

@[simp]
theorem trace?_mint (length : Nat) : (tracer.mint length).2.trace? = tracer.trace? := rfl

@[simp]
theorem trace?_point (id : Id) : (tracer.point id).trace? = tracer.trace? := by
  rw [trace?, trace?, point]
  cases held : tracer.current <;> rfl

theorem trace?_eq_some_iff {id : Id} :
    tracer.trace? = some id ↔
      ∃ context, tracer.current = some context ∧ context.trace = some id ∧ id.isEmpty = false := by
  rw [trace?, Option.filter_eq_some_iff, Option.bind_eq_some_iff, Bool.not_eq_true']
  constructor
  · rintro ⟨⟨context, held, same⟩, named⟩
    exact ⟨context, held, same, named⟩
  · rintro ⟨context, held, same, named⟩
    exact ⟨⟨context, held, same⟩, named⟩

/-- A context that belongs to a trace is read as it is, and every other with a trace of its own. -/
theorem read_cases (tracer : Tracer) :
    (∃ context id, tracer.current = some context ∧ context.trace = some id ∧ id.isEmpty = false ∧
      tracer.read = (context, tracer)) ∨
    tracer.trace? = none ∧ ∃ context,
      context.trace = some (.minted (tracer.minted + 1) traceLength) ∧
      context.span = some (tracer.span?.getD (.minted tracer.minted spanLength)) ∧
      tracer.read = (context, { current := some context, minted := tracer.minted + 2 }) := by
  by_cases traced : (tracer.current.getD {}).isTraced = true
  · left
    cases held : tracer.current with
    | none => simp [held, Context.isTraced] at traced
    | some context =>
        rw [held, Option.getD_some, Context.isTraced, Option.any_eq_true] at traced
        obtain ⟨id, same, named⟩ := traced
        refine ⟨context, id, rfl, same, by simpa using named, ?_⟩
        simp [read, held, Context.isTraced, same, named]
  · right
    rw [Bool.not_eq_true] at traced
    constructor
    · rw [Option.eq_none_iff_forall_ne_some]
      intro id same
      obtain ⟨context, held, named, given⟩ := trace?_eq_some_iff.mp same
      simp [held, Context.isTraced, named, given] at traced
    · let held := tracer.current.getD {}
      let trace : Id := .minted (tracer.minted + 1) traceLength
      let span := held.span.getD (.minted tracer.minted spanLength)
      refine ⟨{ held with trace := some trace, span := some span }, rfl, ?_, ?_⟩
      · change some (held.span.getD _) = some ((tracer.current.bind Context.span).getD _)
        cases same : tracer.current <;> simp [held, same]
      · rw [read, if_neg (by simp [traced])]
        rfl

/-- What has been read is the context that holds. -/
theorem current_read (tracer : Tracer) : tracer.read.2.current = some tracer.read.1 := by
  rcases tracer.read_cases with ⟨context, id, held, -, -, same⟩ | ⟨-, context, -, -, same⟩
  · rw [same, held]
  · rw [same]

theorem span?_read (tracer : Tracer) : tracer.read.2.span? = tracer.read.1.span := by
  rw [span?, current_read]
  rfl

theorem minted_le_read (tracer : Tracer) : tracer.minted ≤ tracer.read.2.minted := by
  rcases tracer.read_cases with ⟨context, id, -, -, -, same⟩ | ⟨-, context, -, -, same⟩
  · exact Nat.le_of_eq (congrArg (fun read => read.2.minted) same).symm
  · rw [same]
    exact Nat.le_add_right _ 2

/-- Reading keeps the span. -/
theorem span_read {id : Id} (pointed : tracer.span? = some id) : tracer.read.1.span = some id := by
  rcases tracer.read_cases with ⟨context, other, held, -, -, same⟩ | ⟨-, context, -, span, same⟩
  · rw [same]
    rwa [span?, held] at pointed
  · rw [same, span, pointed, Option.getD_some]

/-- What has been read belongs to a trace, to the one that there was if there was one. -/
theorem trace_read (tracer : Tracer) :
    ∃ id, id.isEmpty = false ∧ tracer.read.1.trace = some id ∧
      (tracer.trace? = none ∨ tracer.trace? = some id) := by
  rcases tracer.read_cases with
    ⟨context, id, held, trace, named, same⟩ | ⟨none, context, trace, -, same⟩
  · exact ⟨id, named, by rw [same, trace],
      .inr (trace?_eq_some_iff.mpr ⟨context, held, trace, named⟩)⟩
  · exact ⟨_, rfl, by rw [same, trace], .inl none⟩

/-- Reading again gives the same, and mints nothing. -/
theorem read_of_current {context : Context} {id : Id} (held : tracer.current = some context)
    (trace : context.trace = some id) (named : id.isEmpty = false) :
    tracer.read = (context, tracer) := by
  rcases tracer.read_cases with ⟨other, -, same, -, -, whole⟩ | ⟨none, -⟩
  · rw [whole, Option.some.inj (held.symm.trans same)]
  · rw [trace?_eq_some_iff.mpr ⟨context, held, trace, named⟩] at none
    cases none

/-- The tracer inside a span of its own. -/
def inSpan (tracer : Tracer) : Tracer :=
  (tracer.mint spanLength).2.point (.minted tracer.minted spanLength)

/-- The tracer inside a package. -/
def inPackage (tracer : Tracer) (package : String) : Tracer :=
  tracer.read.2.enter (tracer.read.1.inPackage package)

@[simp]
theorem minted_inSpan (tracer : Tracer) : tracer.inSpan.minted = tracer.minted + 1 := rfl

@[simp]
theorem trace?_inSpan (tracer : Tracer) : tracer.inSpan.trace? = tracer.trace? := by
  rw [inSpan, trace?_point, trace?_mint]

@[simp]
theorem span?_inPackage (tracer : Tracer) (package : String) :
    (tracer.inPackage package).span? = tracer.read.1.span := rfl

@[simp]
theorem minted_inPackage (tracer : Tracer) (package : String) :
    (tracer.inPackage package).minted = tracer.read.2.minted := rfl

@[simp]
theorem trace?_inPackage (tracer : Tracer) (package : String) :
    (tracer.inPackage package).trace? = tracer.read.2.trace? := by
  rw [trace?, trace?, current_read]
  rfl

end Tracer

namespace Step

variable {tracer : Tracer} {step : Step} {steps : List Step}

/-! ## Blocks, and one step after another -/

theorem run_package (tracer : Tracer) (name : String) (body : List Step) :
    (package name body).run tracer =
      { tracer := (runAll (tracer.inPackage name) body).tracer.restore tracer.read.2.current
        events := .returned tracer.read.1 :: (runAll (tracer.inPackage name) body).events
        failure := (runAll (tracer.inPackage name) body).failure } := rfl

theorem run_span (tracer : Tracer) (body : List Step) :
    (span body).run tracer = runAll tracer.inSpan body := rfl

theorem runAll_cons_of_failed {text : String} (failed : (step.run tracer).failure = some text) :
    runAll tracer (step :: steps) = step.run tracer := by
  simp [runAll, failed]

theorem runAll_cons_of_done (done : (step.run tracer).failure = none) :
    runAll tracer (step :: steps) =
      { runAll (step.run tracer).tracer steps with
        events := (step.run tracer).events ++ (runAll (step.run tracer).tracer steps).events } := by
  simp [runAll, done]

/-! ## Steps of a kind -/

mutual

/-- A step and the steps in its blocks are all of a kind. -/
def Throughout (kind : Step → Prop) : Step → Prop
  | package name body => kind (package name body) ∧ AllThroughout kind body
  | span body => kind (span body) ∧ AllThroughout kind body
  | attempt body => kind (attempt body) ∧ AllThroughout kind body
  | step => kind step

/-- Steps and the steps in their blocks are all of a kind. -/
def AllThroughout (kind : Step → Prop) : List Step → Prop
  | [] => True
  | step :: steps => step.Throughout kind ∧ AllThroughout kind steps

end

end Step
end Trace
end SignatureSearch
