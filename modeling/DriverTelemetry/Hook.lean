import DriverTelemetry.Hook.Log
import DriverTelemetry.Hook.Trace

/-!
# Hooks

A hook runs before a call, where it may replace the context that is used from there on, and after
it, where it sees the outcome.
-/
namespace DriverTelemetry

inductive Hook where
  /-- Notes what it sees, and numbers the context of each call. -/
  | record (name : String)
  | log (hook : LogHook)
  | trace (hook : TraceHook)
  deriving DecidableEq

namespace Hook

/-- `entry` is the context with which the pass over all hooks began, `ctx` the one so far. -/
def before (h : Hook) (entry ctx : Context) (e : Event) (t : Telemetry) : Context × Telemetry :=
  match h with
  | .record name =>
    let (n, t) := (t.emit (.noted ⟨name, .before, ctx, e⟩)).nextSeq
    (ctx.withSeq n, t)
  | .log _ => (ctx, t)
  | .trace h => h.before entry ctx e t

def after (h : Hook) (ctx : Context) (e : Event) (t : Telemetry) : Telemetry :=
  match h with
  | .record name => t.emit (.noted ⟨name, .after, ctx, e⟩)
  | .log h => h.after e t
  | .trace h => h.after ctx e t

def trace? : Hook → Option TraceHook
  | .trace h => some h
  | _ => none

/-- Those hooks that trace an operation, in configured order. -/
def tracers (op : Operation) (hooks : List Hook) : List TraceHook :=
  (hooks.filterMap trace?).filter fun h => !h.excludes op

section

variable (op : Operation) (hooks hooks' : List Hook)

@[simp] theorem tracers_nil : tracers op [] = [] := rfl

@[simp] theorem tracers_record (name : String) :
    tracers op (.record name :: hooks) = tracers op hooks := rfl

@[simp] theorem tracers_log (h : LogHook) : tracers op (.log h :: hooks) = tracers op hooks := rfl

theorem tracers_trace (h : TraceHook) :
    tracers op (.trace h :: hooks) =
      if h.excludes op then tracers op hooks else h :: tracers op hooks := by
  cases excluded : h.excludes op <;> simp [tracers, trace?, excluded]

theorem tracers_append : tracers op (hooks ++ hooks') = tracers op hooks ++ tracers op hooks' := by
  simp [tracers]

end

end Hook
end DriverTelemetry
