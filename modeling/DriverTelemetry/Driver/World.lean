import DriverTelemetry.Configuration
import DriverTelemetry.Driver.Base

/-!
# Running calls

A call runs in a world: the state of the base drivers, the telemetry and the ambient context. This
module holds the two primitive steps, a base call and an observed call. The observed call runs the
hooks around the call it is given, exactly once, and hands its answer on unchanged.
-/
namespace DriverTelemetry

structure World (σ : Type) where
  base : σ
  telemetry : Telemetry
  /-- The context that a call without one runs under. -/
  ambient : Context

abbrev Run (σ α : Type) := StateM (World σ) α

namespace World

variable {σ α : Type}

def ambientContext : Run σ Context := fun w => (w.ambient, w)

def observing (f : Telemetry → α × Telemetry) : Run σ α := fun w =>
  let (a, t) := f w.telemetry
  (a, { w with telemetry := t })

def log (records : List LogRecord) : Run σ Unit := observing fun t => ((), t.log records)

/-- The first contexts are kept from here on, and then the second given up. -/
def exchange (kept givenUp : List Context) : Run σ Unit :=
  observing fun t => ((), t.exchange kept givenUp)

/-- A call on a base driver, written down before it is answered. -/
def ask (id : BaseId) (call : BaseCall) (method : Call σ α) : Run σ (Result α) := fun w =>
  let (answer, base) := method.run w.base
  (answer, { w with base, telemetry := w.telemetry.emit (.called id call) })

end World

/-- The figures that a call contributes to its event, or the error it failed with. -/
abbrev Verdict := Result (Option ExecSummary)

namespace Event

def settle (e : Event) : Verdict → Event
  | .ok (some figures) => e.setFigures figures
  | .ok none => e
  | .error err => e.setError err

/-- Apart from the outcome the event stays as it is. -/
theorem settle_eq (e : Event) (v : Verdict) :
    e.settle v = { e with
      lastInsertId := (v.toOption.join.bind ExecSummary.lastInsertId).or e.lastInsertId
      rowsAffected := (v.toOption.join.bind ExecSummary.rowsAffected).or e.rowsAffected
      error := (Result.error? v).or e.error } := by
  match v with
  | .error err => rfl
  | .ok none => rfl
  | .ok (some ⟨id, rows⟩) => cases id <;> cases rows <;> rfl

end Event

variable {σ α : Type}

def Verdict.ofExec (r : Result ExecSummary) : Verdict := r.map some

def Verdict.ofResult (r : Result α) : Verdict := r.map fun _ => none

/-- Runs a call between the two passes over the hooks. The context that the first pass returns is
handed to the call and to the second pass, and is returned beside the answer. -/
def observe (config : Configuration) (ctx : Context) (event : Event)
    (call : Context → Run σ α) (verdict : α → Verdict) : Run σ (Context × α) := do
  let ctx ← World.observing (config.before ctx event)
  let begun ← World.observing Telemetry.tick
  let answer ← call ctx
  let ended ← World.observing Telemetry.tick
  let event := ((event.start begun).stop ended).settle (verdict answer)
  World.observing fun t => ((), config.after ctx event t)
  return (ctx, answer)

end DriverTelemetry
