import DriverTelemetry.Rows
import DriverTelemetry.Telemetry

/-!
# Base drivers

A base driver as its methods on a state of its own, which nothing but its methods changes. A
capability is a method that may be absent.
-/
namespace DriverTelemetry

/-- A method call: it may fail, and changes the state also when it does. -/
abbrev Call (σ α : Type) := ExceptT DriverError (StateM σ) α

structure BaseStmt (σ : Type) where
  id : BaseId
  /-- How many placeholders there are, if the driver can tell. -/
  numInput : Option Nat
  close : Call σ Unit
  exec : List Value → Call σ ExecSummary
  query : List Value → Call σ Rows
  execContext : Option (Context → List NamedValue → Call σ ExecSummary)
  queryContext : Option (Context → List NamedValue → Call σ Rows)

structure BaseTx (σ : Type) where
  id : BaseId
  commit : Call σ Unit
  rollback : Call σ Unit

structure BaseConn (σ : Type) where
  id : BaseId
  prepare : String → Call σ (BaseStmt σ)
  close : Call σ Unit
  begin : Call σ (BaseTx σ)
  exec : Option (String → List Value → Call σ ExecSummary)
  execContext : Option (Context → String → List NamedValue → Call σ ExecSummary)
  query : Option (String → List Value → Call σ Rows)
  queryContext : Option (Context → String → List NamedValue → Call σ Rows)
  prepareContext : Option (Context → String → Call σ (BaseStmt σ))
  beginTx : Option (Context → TxOptions → Call σ (BaseTx σ))
  ping : Option (Context → Call σ Unit)
  resetSession : Option (Context → Call σ Unit)

structure BaseConnector (σ : Type) where
  id : BaseId
  /-- What the driver logs when it starts to connect. -/
  announces : List LogRecord
  connect : Context → Call σ (BaseConn σ)

structure BaseDriver (σ : Type) where
  id : BaseId
  /-- What the driver logs when it starts to connect to a data source. -/
  announces : String → List LogRecord
  openConn : String → Call σ (BaseConn σ)
  openConnector : Option (String → Call σ (BaseConnector σ))

variable {σ : Type}

/-- The statement with its mandatory calls only. -/
def BaseStmt.bare (s : BaseStmt σ) : BaseStmt σ :=
  { s with execContext := none, queryContext := none }

/-- The connection with its mandatory calls only, and all that it prepares likewise. -/
def BaseConn.bare (c : BaseConn σ) : BaseConn σ where
  id := c.id
  prepare query := return (← c.prepare query).bare
  close := c.close
  begin := c.begin
  exec := none
  execContext := none
  query := none
  queryContext := none
  prepareContext := none
  beginTx := none
  ping := none
  resetSession := none

/-- The driver with its mandatory calls only, and all that it opens likewise. -/
def BaseDriver.bare (d : BaseDriver σ) : BaseDriver σ :=
  { d with openConn := fun dsn => return (← d.openConn dsn).bare, openConnector := none }

end DriverTelemetry
