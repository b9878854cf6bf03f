import DriverTelemetry.Telemetry

/-!
# The tracing hook

One span per call, started before it as a child of the active span and ended after it with the
outcome. A context holds one active span, and the hook finds its span again only through the
context, so of several tracing hooks in one pass the last one's span takes all the outcomes.
-/
namespace DriverTelemetry

structure TraceHook where
  /-- The scope of the tracer that starts the spans. -/
  scope : String
  logArguments : Bool
  excluded : List Operation
  deriving DecidableEq

namespace TraceHook

def excludes (h : TraceHook) (op : Operation) : Bool := op ∈ h.excluded

def attributes (h : TraceHook) (e : Event) : List (String × Field) :=
  [("db.system", .text e.system.attributeName), ("db.operation", .text e.operation.name)]
    ++ optionalField "db.statement" (if e.query = "" then none else some (.text e.query))
    ++ optionalField "db.arguments"
      (if h.logArguments && !e.args.isEmpty then some (.text e.args.display) else none)

/-- The span as it is started under the given parent. -/
def span (h : TraceHook) (parent : Option SpanId) (e : Event) : Span :=
  Span.fresh (.tracer h.scope) .client ("SQL " ++ e.operation.name) parent (h.attributes e)

/-- A span that was started in this same pass and leaves the context is held by nothing any more,
so it ends; the span with which the pass was entered is still held by the caller. -/
def release (entry ctx : Context) (t : Telemetry) : Telemetry :=
  match ctx.span with
  | some id => if entry.span = some id then t else t.finishSpan id
  | none => t

def before (h : TraceHook) (entry ctx : Context) (e : Event) (t : Telemetry) :
    Context × Telemetry :=
  if h.excludes e.operation then (ctx, t)
  else
    let (id, t) := t.startSpan (h.span ctx.span e)
    (ctx.withSpan id, release entry ctx t)

def settle (e : Event) (s : Span) : Span :=
  let s := match e.rowsAffected with
    | some rows => s.setAttribute "db.rows_affected" (.int rows.toInt)
    | none => s
  let s := match e.lastInsertId with
    | some id => s.setAttribute "db.last_insert_id" (.int id.toInt)
    | none => s
  match e.failure with
  | some err => (s.recordError err.display).setStatus (.error err.display)
  | none => s.setStatus .ok

def after (h : TraceHook) (ctx : Context) (e : Event) (t : Telemetry) : Telemetry :=
  if h.excludes e.operation then t
  else
    match ctx.span with
    | some id => (t.changeSpan id (settle e)).finishSpan id
    | none => t

end TraceHook
end DriverTelemetry
