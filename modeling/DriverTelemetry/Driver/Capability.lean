/-!
# Capabilities

The methods that a driver may or may not offer beyond the mandatory ones.
-/
namespace DriverTelemetry

inductive Capability where
  | driverContext
  | execer | execerContext | queryer | queryerContext
  | prepareContext | beginTx | pinger | sessionResetter
  | stmtExecContext | stmtQueryContext
  deriving DecidableEq

namespace Capability

def all : List Capability :=
  [.driverContext, .execer, .execerContext, .queryer, .queryerContext, .prepareContext,
   .beginTx, .pinger, .sessionResetter, .stmtExecContext, .stmtQueryContext]

def name : Capability → String
  | .driverContext => "driver_context"
  | .execer => "execer"
  | .execerContext => "execer_context"
  | .queryer => "queryer"
  | .queryerContext => "queryer_context"
  | .prepareContext => "prepare_context"
  | .beginTx => "begin_tx"
  | .pinger => "pinger"
  | .sessionResetter => "session_resetter"
  | .stmtExecContext => "stmt_exec_context"
  | .stmtQueryContext => "stmt_query_context"

def ofName? (name : String) : Option Capability := all.find? fun c => c.name = name

end Capability

abbrev Capabilities := List Capability

namespace Capabilities

def all : Capabilities := Capability.all

/-- Direct exec and query as they were before calls had contexts. -/
def legacy : Capabilities := [.execer, .queryer]

def none : Capabilities := []

/-- A method, if the set has its capability. -/
def offer {α : Type} (caps : Capabilities) (c : Capability) (method : α) : Option α :=
  if c ∈ caps then some method else Option.none

theorem eq_of_offer_eq_some {α : Type} {caps : Capabilities} {c : Capability} {method m : α}
    (h : caps.offer c method = some m) : m = method := by
  unfold offer at h
  split at h
  · exact (Option.some.inj h).symm
  · cases h

end Capabilities
end DriverTelemetry
