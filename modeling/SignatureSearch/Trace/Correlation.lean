import SignatureSearch.Log.Line
import SignatureSearch.Trace.Context

/-!
# Correlated log lines

A log line tells the trace, the span and the package of the context that holds when it is written.
Reading the context for a line may mint ids, and later lines carry the same ones.
-/

namespace SignatureSearch
namespace Trace

/-- What a line tells of a context whose ids have texts; an id that is missing is empty. -/
def Context.correlation (textOf : Id → String) (context : Context) : Log.Correlation where
  trace := (context.trace.map textOf).getD ""
  span := (context.span.map textOf).getD ""
  package := context.package?.map Log.Value.ofJson

/-- What the next line tells, and the tracer after it. -/
def Tracer.correlate (textOf : Id → String) (tracer : Tracer) : Log.Correlation × Tracer :=
  let (context, tracer) := tracer.read
  (context.correlation textOf, tracer)

end Trace
end SignatureSearch
