import DriverTelemetry.Configuration

/-!
# Cycles

The two passes over the hooks around a call that is only told: what it answers is filled into the
event between them.
-/
namespace DriverTelemetry

/-- What happens to an event between the two passes. -/
structure Filling where
  start : Bool
  stop : Bool
  lastInsertId : Option Int64
  rowsAffected : Option Int64
  error : Option DriverError
  deriving DecidableEq

namespace Event

/-- A mark at the next reading of the clock. -/
def markedIf (mark : Bool) (set : Nat → Event → Event) (e : Event) (t : Telemetry) :
    Event × Telemetry :=
  if mark then
    let (now, t) := t.tick
    (set now e, t)
  else (e, t)

/-- Marks come first, then the figures, then the error. -/
def fill (f : Filling) (e : Event) (t : Telemetry) : Event × Telemetry :=
  let (e, t) := e.markedIf f.start Event.start t
  let (e, t) := e.markedIf f.stop Event.stop t
  let e := match f.lastInsertId with
    | some id => e.setLastInsertId id
    | none => e
  let e := match f.rowsAffected with
    | some rows => e.setRowsAffected rows
    | none => e
  let e := match f.error with
    | some err => e.setError err
    | none => e
  (e, t)

end Event

/-- Both passes; the context is the one that the first returned. -/
def Configuration.cycle (c : Configuration) (ctx : Context) (e : Event) (f : Filling)
    (t : Telemetry) : Context × Telemetry :=
  let (ctx, t) := c.before ctx e t
  let (e, t) := e.fill f t
  (ctx, c.after ctx e t)

end DriverTelemetry
