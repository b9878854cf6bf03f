import DriverTelemetry.Arguments
import DriverTelemetry.Span
import DriverTelemetry.TxOptions

/-!
# Calls on a base driver

One call on a base driver as a datum: the method and all that it was handed.
-/
namespace DriverTelemetry

inductive BaseCall where
  | openConn (dsn : String)
  | openConnector (dsn : String)
  | connect (ctx : Context)
  | prepare (query : String)
  | close
  | begin
  | exec (query : String) (args : List Value)
  | execContext (ctx : Context) (query : String) (args : List NamedValue)
  | query (query : String) (args : List Value)
  | queryContext (ctx : Context) (query : String) (args : List NamedValue)
  | prepareContext (ctx : Context) (query : String)
  | beginTx (ctx : Context) (opts : TxOptions)
  | ping (ctx : Context)
  | resetSession (ctx : Context)
  | stmtClose
  | stmtExec (args : List Value)
  | stmtQuery (args : List Value)
  | stmtExecContext (ctx : Context) (args : List NamedValue)
  | stmtQueryContext (ctx : Context) (args : List NamedValue)
  | commit
  | rollback
  deriving DecidableEq

namespace BaseCall

def name : BaseCall → String
  | openConn _ => "driver.open"
  | openConnector _ => "driver.open_connector"
  | connect _ => "connector.connect"
  | prepare _ => "conn.prepare"
  | close => "conn.close"
  | begin => "conn.begin"
  | exec _ _ => "conn.exec"
  | execContext _ _ _ => "conn.exec_context"
  | query _ _ => "conn.query"
  | queryContext _ _ _ => "conn.query_context"
  | prepareContext _ _ => "conn.prepare_context"
  | beginTx _ _ => "conn.begin_tx"
  | ping _ => "conn.ping"
  | resetSession _ => "conn.reset_session"
  | stmtClose => "stmt.close"
  | stmtExec _ => "stmt.exec"
  | stmtQuery _ => "stmt.query"
  | stmtExecContext _ _ => "stmt.exec_context"
  | stmtQueryContext _ _ => "stmt.query_context"
  | commit => "tx.commit"
  | rollback => "tx.rollback"

def withoutContext : BaseCall → BaseCall
  | .connect _ => .connect .empty
  | .execContext _ text args => .execContext .empty text args
  | .queryContext _ text args => .queryContext .empty text args
  | .prepareContext _ text => .prepareContext .empty text
  | .beginTx _ opts => .beginTx .empty opts
  | .ping _ => .ping .empty
  | .resetSession _ => .resetSession .empty
  | .stmtExecContext _ args => .stmtExecContext .empty args
  | .stmtQueryContext _ args => .stmtQueryContext .empty args
  | call => call

end BaseCall
end DriverTelemetry
