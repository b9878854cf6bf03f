import DriverTelemetry.Telemetry

/-!
# The logging hook

One record per finished call, at the hook's level or, when the call failed, as an error. A skip is
no failure. Arguments may hold secrets, so they are written only on request.
-/
namespace DriverTelemetry

structure LogHook where
  level : Level
  logArguments : Bool
  excluded : List Operation
  deriving DecidableEq

namespace LogHook

def standard : LogHook := ⟨.info, false, []⟩

def excludes (h : LogHook) (op : Operation) : Bool := op ∈ h.excluded

def fields (h : LogHook) (e : Event) : List (String × Field) :=
  [("system", .text e.system.name), ("operation", .text e.operation.name), ("query", .text e.query)]
    ++ optionalField "arguments" (if h.logArguments then some (.text e.args.display) else none)
    ++ optionalField "latency_us" (e.latency.toOption.map fun n => .int n)
    ++ optionalField "lastInsertId" (e.lastInsertId.map fun i => .int i.toInt)
    ++ optionalField "rowsAffected" (e.rowsAffected.map fun i => .int i.toInt)
    ++ optionalField "error" (e.failure.map fun err => .text err.display)

def target : String := "sqlhooks::hooks::log"

def record (h : LogHook) (e : Event) : LogRecord where
  level := if e.failure.isSome then .error else h.level
  target := target
  message := "sql operation"
  fields := h.fields e

def after (h : LogHook) (e : Event) (t : Telemetry) : Telemetry :=
  if h.excludes e.operation then t else t.emit (.logged (h.record e))

end LogHook
end DriverTelemetry
