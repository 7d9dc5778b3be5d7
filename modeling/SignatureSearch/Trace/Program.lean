import SignatureSearch.Trace.Context

/-!
# Programs over the trace context

Blocks of work that change the context.  A package block gives back the context that it found; a
span block points messages at its own span.  A failure leaves all blocks around it up to the next
attempt, and a block does on failure what it does at its end.
-/

namespace SignatureSearch
namespace Trace

/-- A step of a program. -/
inductive Step where
  /-- Set a context of which everything is given. -/
  | set (trace span : String) (fields : Table Json)
  /-- Point messages at a given span. -/
  | point (span : String)
  /-- Read the context as messages carry it. -/
  | read
  /-- Work on a package. -/
  | package (name : String) (body : List Step)
  /-- Work in a span of its own. -/
  | span (body : List Step)
  /-- Fail. -/
  | fail (text : String)
  /-- Work that may fail. -/
  | attempt (body : List Step)
  /-- Look at the context without reading it. -/
  | observe (label : String)

/-- What can be seen of a program while it runs. -/
inductive Event where
  /-- The context as it was when it was looked at. -/
  | observed (label : String) (context : Option Context)
  /-- The context that was read. -/
  | returned (context : Context)
  /-- A failure went no further. -/
  | caught (text : String)

/-- What comes of running a program. -/
structure Run where
  /-- The tracer at the end. -/
  tracer : Tracer
  /-- What could be seen, in order. -/
  events : List Event := []
  /-- The failure that left the program. -/
  failure : Option String := none

mutual

/-- Run one step. -/
def Step.run (tracer : Tracer) : Step → Run
  | .set traceId spanId fields => { tracer := tracer.set traceId spanId fields }
  | .point spanId => { tracer := tracer.point (.given spanId) }
  | .read =>
      match tracer.read with
      | (context, tracer) => { tracer, events := [.returned context] }
  | .package name body =>
      match tracer.read with
      | (context, found) =>
          let inner := Step.runAll (found.enter (context.inPackage name)) body
          { tracer := inner.tracer.restore found.current
            events := .returned context :: inner.events
            failure := inner.failure }
  | .span body =>
      match tracer.mint spanLength with
      | (id, tracer) => Step.runAll (tracer.point id) body
  | .fail text => { tracer, failure := some text }
  | .attempt body =>
      let inner := Step.runAll tracer body
      { tracer := inner.tracer
        events := inner.events ++ (inner.failure.map Event.caught).toList }
  | .observe label => { tracer, events := [.observed label tracer.current] }

/-- Run steps in order, up to the first that fails. -/
def Step.runAll (tracer : Tracer) : List Step → Run
  | [] => { tracer }
  | step :: steps =>
      let first := Step.run tracer step
      match first.failure with
      | some _ => first
      | none =>
          let rest := Step.runAll first.tracer steps
          { rest with events := first.events ++ rest.events }

end

end Trace
end SignatureSearch
