import DriverTelemetry.Hook

/-!
# Configurations

A database system and the hooks on its calls. Both passes go through the hooks in configured order:
the second is not the reverse of the first.
-/
namespace DriverTelemetry

structure Configuration where
  system : DatabaseSystem
  hooks : List Hook
  deriving DecidableEq

namespace Configuration

def event (c : Configuration) (op : Operation) : Event := Event.fresh c.system op

/-- One pass before a call, each hook getting the context that the one before it returned. -/
def beforeFrom (entry : Context) (e : Event) : List Hook → Context → Telemetry → Context × Telemetry
  | [], ctx, t => (ctx, t)
  | h :: hooks, ctx, t =>
    let (ctx, t) := h.before entry ctx e t
    beforeFrom entry e hooks ctx t

def before (c : Configuration) (ctx : Context) (e : Event) (t : Telemetry) : Context × Telemetry :=
  beforeFrom ctx e c.hooks ctx t

def after (c : Configuration) (ctx : Context) (e : Event) (t : Telemetry) : Telemetry :=
  c.hooks.foldl (fun t h => h.after ctx e t) t

def display (c : Configuration) : String :=
  "Configuration \x7b system: " ++ c.system.title ++ ", hooks: " ++ toString c.hooks.length
    ++ " \x7d"

end Configuration
end DriverTelemetry
