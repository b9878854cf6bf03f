import DriverTelemetry.Embedded.Driver
import DriverTelemetry.Registration
import DriverTelemetry.Scripted.Driver

/-!
# The base drivers of a session

A session works on scripted drivers and on drivers of the embedded database. Their states are two
parts of one, and a call on one part leaves the other as it is.
-/
namespace DriverTelemetry

structure Bench where
  faults : Scripted.FaultPlans
  store : Embedded.Store

namespace Bench

variable {α : Type}

def empty : Bench := ⟨[], []⟩

def onFaults (call : Call Scripted.FaultPlans α) : Call Bench α := fun b =>
  let (r, faults) := call b.faults
  (r, { b with faults })

def onStore (call : Call Embedded.Store α) : Call Bench α := fun b =>
  let (r, store) := call b.store
  (r, { b with store })

def scripted (id : BaseId) (script : Scripted.Script) : Driver Bench :=
  .base (Scripted.driver onFaults id script)

def embedded (id : BaseId) (system : DatabaseSystem) : Driver Bench :=
  .base (Embedded.driver onStore id system)

/-- Makes the one scripted driver it is given, for every system. -/
def scriptedFactory (id : BaseId) (script : Scripted.Script) : Factory Bench :=
  Factory.observing fun _ => .ok (scripted id script)

/-- Of all systems only that of the embedded database has a base driver here. -/
def embeddedFactory (id : BaseId) : Factory Bench :=
  Factory.offering (fun system => system = .sqlite) (embedded id)

end Bench
end DriverTelemetry
