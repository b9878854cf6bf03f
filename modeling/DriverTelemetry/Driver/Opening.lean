import DriverTelemetry.Driver.Connection

/-!
# Drivers and connectors

A driver opens connections to a data source, or hands out a connector that does so again and again.
An observed driver observes the connections of another; opening itself is no observed operation. It
offers connectors whatever is inside it, and one for a driver without connectors opens the data
source anew each time.
-/
namespace DriverTelemetry

inductive Driver (σ : Type) where
  | base (d : BaseDriver σ)
  | observed (config : Configuration) (inner : Driver σ)

inductive Connector (σ : Type) where
  | base (owner : BaseDriver σ) (c : BaseConnector σ)
  | observed (config : Configuration) (owner : Driver σ) (inner : Connector σ)
  /-- Stands in for the connector that the driver inside does not offer. -/
  | reopening (config : Configuration) (owner : Driver σ) (dsn : String)

namespace Driver

variable {σ : Type}

def openConn (dsn : String) : Driver σ → Run σ (Result (Conn σ))
  | .base d => do
    World.log (d.announces dsn)
    let answer ← World.ask d.id (.openConn dsn) (d.openConn dsn)
    return answer.map .base
  | .observed config inner => do
    let answer ← inner.openConn dsn
    return answer.map (.observed config)

def openConnector? : Driver σ → Option (String → Run σ (Result (Connector σ)))
  | .base d => d.openConnector.map fun method dsn => do
    let answer ← World.ask d.id (.openConnector dsn) (method dsn)
    return answer.map (.base d)
  | .observed config inner => some fun dsn =>
    match inner.openConnector? with
    | some method => do
      let answer ← method dsn
      return answer.map (.observed config inner)
    | none => return .ok (.reopening config inner dsn)

def capabilities (d : Driver σ) : Capabilities :=
  if d.openConnector?.isSome then [.driverContext] else []

end Driver

namespace Connector

variable {σ : Type}

def connect (ctx : Context) : Connector σ → Run σ (Result (Conn σ))
  | .base _ c => do
    World.log c.announces
    let answer ← World.ask c.id (.connect ctx) (c.connect ctx)
    return answer.map .base
  | .observed config _ inner => do
    let answer ← inner.connect ctx
    return answer.map (.observed config)
  | .reopening config owner dsn => (Driver.observed config owner).openConn dsn

def driver : Connector σ → Driver σ
  | .base owner _ => .base owner
  | .observed config owner _ => .observed config owner
  | .reopening config owner _ => .observed config owner

end Connector

/-- A driver together with the configuration under which it is observed. -/
structure ObservedDriver (σ : Type) where
  config : Configuration
  inner : Driver σ

namespace ObservedDriver

variable {σ : Type}

def driver (d : ObservedDriver σ) : Driver σ := .observed d.config d.inner

/-- What is observed is not shown. -/
def display (d : ObservedDriver σ) : String :=
  "InstrumentedDriver \x7b config: " ++ d.config.display ++ ", .. \x7d"

end ObservedDriver
end DriverTelemetry
