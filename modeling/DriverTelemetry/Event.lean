import DriverTelemetry.Arguments
import DriverTelemetry.DatabaseSystem
import DriverTelemetry.Operation
import DriverTelemetry.Rows

/-!
# Events

One observed driver call. Its marks are readings of a monotonic clock, so that the time between
them is never negative once the call has been stopped after its last start.
-/
namespace DriverTelemetry

structure Event where
  system : DatabaseSystem
  operation : Operation
  /-- Empty for an operation without a query. -/
  query : String
  args : Arguments
  started : Option Nat
  stopped : Option Nat
  lastInsertId : Option Int64
  rowsAffected : Option Int64
  error : Option DriverError
  deriving DecidableEq

inductive EventError where
  | notStarted | notStopped
  deriving DecidableEq

def EventError.display : EventError → String
  | .notStarted => "event was not started"
  | .notStopped => "event was not stopped"

namespace Event

def fresh (system : DatabaseSystem) (operation : Operation) : Event :=
  { system, operation, query := "", args := .none, started := none, stopped := none,
    lastInsertId := none, rowsAffected := none, error := none }

def withQuery (e : Event) (query : String) : Event := { e with query }

def withArgs (e : Event) (args : Arguments) : Event := { e with args }

def start (now : Nat) (e : Event) : Event := { e with started := some now }

def stop (now : Nat) (e : Event) : Event := { e with stopped := some now }

/-- A stop from before the last start does not close the call. -/
def latency (e : Event) : Except EventError Nat :=
  match e.started, e.stopped with
  | none, _ => .error .notStarted
  | some _, none => .error .notStopped
  | some start, some stop => if start ≤ stop then .ok (stop - start) else .error .notStopped

def setError (e : Event) (error : DriverError) : Event := { e with error := some error }

def setLastInsertId (e : Event) (id : Int64) : Event := { e with lastInsertId := some id }

def setRowsAffected (e : Event) (rows : Int64) : Event := { e with rowsAffected := some rows }

/-- The known figures of a summary; an unknown one leaves the event as it is. -/
def setFigures (e : Event) (s : ExecSummary) : Event :=
  let e := match s.lastInsertId? with
    | .ok id => e.setLastInsertId id
    | .error _ => e
  match s.rowsAffected? with
  | .ok rows => e.setRowsAffected rows
  | .error _ => e

/-- The error that counts as one: a skip does not. -/
def failure (e : Event) : Option DriverError := e.error.filter fun err => !err.isSkip

end Event
end DriverTelemetry
