import SignatureSearch.Json.Value

/-!
# Trace context

What correlates the messages of one run: the id of the trace, the id of the span that is open, and
further fields such as the package that is being indexed.  An id that nobody gave is minted when it
is first needed.

It is assumed that an id that is minted is new: it differs from all that were given or minted
before.  The ids of spans come from a library, of which this holds while it records spans; where it
is told to record none, every span has the id that stands for none.
-/

namespace SignatureSearch
namespace Trace

/-- An id that messages carry. -/
inductive Id where
  /-- An id that was given. -/
  | given (text : String)
  /-- A fresh id of some length, told from others by a serial number. -/
  | minted (serial length : Nat)
  deriving DecidableEq, Repr, Inhabited

namespace Id

/-- Whether an id is no id at all. -/
def isEmpty : Id → Bool
  | given text => text == ""
  | minted _ _ => false

end Id

/-- How long a minted id of a trace is. -/
def traceLength : Nat := 32

/-- How long a minted id of a span is. -/
def spanLength : Nat := 16

/-- The name of the field that tells which package is being indexed. -/
def packageField : String :=
  "package"

/-- What messages carry to be correlated. -/
structure Context where
  /-- The trace. -/
  trace : Option Id := none
  /-- The span. -/
  span : Option Id := none
  /-- Further fields. -/
  fields : Table Json := .empty

namespace Context

/-- The package that is being indexed. -/
def package? (context : Context) : Option Json :=
  context.fields.get? packageField

/-- The context inside a package. -/
def inPackage (context : Context) (package : String) : Context :=
  { context with fields := context.fields.put packageField (.string package) }

/-- Whether a context belongs to a trace. -/
def isTraced (context : Context) : Bool :=
  context.trace.any (!·.isEmpty)

end Context

/-- The context that holds, and how many ids have been minted. -/
structure Tracer where
  /-- The context, none before the first. -/
  current : Option Context := none
  /-- How many ids have been minted. -/
  minted : Nat := 0

namespace Tracer

/-- An id that is assumed to be new. -/
def mint (tracer : Tracer) (length : Nat) : Id × Tracer :=
  (.minted tracer.minted length, { tracer with minted := tracer.minted + 1 })

/-- The tracer with another context. -/
def enter (tracer : Tracer) (context : Context) : Tracer :=
  { tracer with current := some context }

/-- The tracer with the context that held at another time, if there was one. -/
def restore (tracer : Tracer) (held : Option Context) : Tracer :=
  { tracer with current := held }

/-- The tracer with a context of which everything is given. -/
def set (tracer : Tracer) (trace span : String) (fields : Table Json) : Tracer :=
  tracer.enter { trace := some (.given trace), span := some (.given span), fields }

/-- The tracer with messages pointed at another span, all else kept. -/
def point (tracer : Tracer) (span : Id) : Tracer :=
  tracer.enter { tracer.current.getD {} with span := some span }

/-- The context as messages carry it: a trace is minted when there is none, and a span with it when
there is none either. -/
def read (tracer : Tracer) : Context × Tracer :=
  let held := tracer.current.getD {}
  if held.isTraced then (held, tracer)
  else
    let (span, tracer) := tracer.mint spanLength
    let (trace, tracer) := tracer.mint traceLength
    let context := { held with trace := some trace, span := some (held.span.getD span) }
    (context, tracer.enter context)

end Tracer
end Trace
end SignatureSearch
