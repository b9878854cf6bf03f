import DriverTelemetry.Driver.Capability
import DriverTelemetry.Scripted.FaultPlan

/-!
# Scripted drivers

A driver without a database. It offers the capabilities it is told to offer, answers every exec with
one summary and every query with one list of rows, and fails the calls for which an error is
planned. What it answers depends on nothing else: not on the context, the query, the arguments or
the calls before.

The driver is stated over any state that has the fault plans as a part: `part` runs a call on that
part.
-/
namespace DriverTelemetry.Scripted

structure Script where
  capabilities : Capabilities
  exec : ExecSummary
  columns : List String
  rows : List (List Value)
  numInput : Option Nat
  /-- Whether handing out a connector may fail like any other call. -/
  connectorsFail : Bool

namespace Script

/-- Answers every exec with one row and the id 1, and every query with one row of one column. -/
def standard (capabilities : Capabilities) : Script where
  capabilities
  exec := ⟨some 1, some 1⟩
  columns := ["bar"]
  rows := [[.text "test"]]
  numInput := some 1
  connectorsFail := false

end Script

section

variable {σ : Type} (part : {α : Type} → Call FaultPlans α → Call σ α) (id : BaseId)
  (script : Script)

def answer {α : Type} (call : BaseCall) (a : α) : Call σ α :=
  part (FaultPlans.answer id call.name a)

def rows : Rows := Rows.ofList script.columns script.rows

def stmt : BaseStmt σ where
  id
  numInput := script.numInput
  close := answer part id .stmtClose ()
  exec args := answer part id (.stmtExec args) script.exec
  query args := answer part id (.stmtQuery args) (rows script)
  execContext := script.capabilities.offer .stmtExecContext fun ctx args =>
    answer part id (.stmtExecContext ctx args) script.exec
  queryContext := script.capabilities.offer .stmtQueryContext fun ctx args =>
    answer part id (.stmtQueryContext ctx args) (rows script)

def tx : BaseTx σ where
  id
  commit := answer part id .commit ()
  rollback := answer part id .rollback ()

def conn : BaseConn σ where
  id
  prepare query := answer part id (.prepare query) (stmt part id script)
  close := answer part id .close ()
  begin := answer part id .begin (tx part id)
  exec := script.capabilities.offer .execer fun query args =>
    answer part id (.exec query args) script.exec
  execContext := script.capabilities.offer .execerContext fun ctx query args =>
    answer part id (.execContext ctx query args) script.exec
  query := script.capabilities.offer .queryer fun query args =>
    answer part id (.query query args) (rows script)
  queryContext := script.capabilities.offer .queryerContext fun ctx query args =>
    answer part id (.queryContext ctx query args) (rows script)
  prepareContext := script.capabilities.offer .prepareContext fun ctx query =>
    answer part id (.prepareContext ctx query) (stmt part id script)
  beginTx := script.capabilities.offer .beginTx fun ctx opts =>
    answer part id (.beginTx ctx opts) (tx part id)
  ping := script.capabilities.offer .pinger fun ctx => answer part id (.ping ctx) ()
  resetSession := script.capabilities.offer .sessionResetter fun ctx =>
    answer part id (.resetSession ctx) ()

def connector : BaseConnector σ where
  id
  announces := []
  connect ctx := answer part id (.connect ctx) (conn part id script)

def driver : BaseDriver σ where
  id
  announces _ := []
  openConn dsn := answer part id (.openConn dsn) (conn part id script)
  openConnector := script.capabilities.offer .driverContext fun dsn =>
    if script.connectorsFail then
      answer part id (.openConnector dsn) (connector part id script)
    else return connector part id script

end

end DriverTelemetry.Scripted
