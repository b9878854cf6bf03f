import DriverTelemetry.NativeTable

/-!
# The front-end

Drives a connection as a general SQL layer does: the context-aware call where it is offered, else
the legacy one. A direct exec or query that is absent or skipped becomes a round trip through a
statement, which is closed again whatever came of it; that it could not be closed is only logged.
-/
namespace DriverTelemetry

/-- A data source reachable through one driver. -/
structure Db (σ : Type) where
  driver : Driver σ
  connector : Option (Connector σ)
  dsn : String

namespace FrontEnd

variable {σ α : Type}

abbrev Answer (α : Type) := Except SqlError α

def answer (r : Result α) : Answer α := r.mapError .driver

/-- Makes no connection yet. A driver that offers connectors reads the data source name here. -/
def openDb (t : NativeTable σ) (name dsn : String) : Run σ (Answer (Db σ)) :=
  match t.lookup name with
  | .error err => return .error err
  | .ok driver =>
    match driver.openConnector? with
    | none => return .ok ⟨driver, none, dsn⟩
    | some method => do
      let connector ← method dsn
      return answer (connector.map fun c => ⟨driver, some c, dsn⟩)

def connect (db : Db σ) (ctx : Context) : Run σ (Answer (Conn σ)) := do
  let conn ← match db.connector with
    | some connector => connector.connect ctx
    | none => db.driver.openConn db.dsn
  return answer conn

def prepare (c : Conn σ) (ctx : Context) (query : String) : Run σ (Answer (Stmt σ)) := do
  let stmt ← match c.prepareContext? with
    | some method => method ctx query
    | none => c.prepare query
  return answer stmt

def execStmt (s : Stmt σ) (ctx : Context) (args : List Value) :
    Run σ (Answer ExecSummary × Stmt σ) := do
  let (result, s) ← match s.execContext? with
    | some method => method ctx (NamedValue.ofValues args)
    | none => s.exec args
  return (answer result, s)

def queryStmt (s : Stmt σ) (ctx : Context) (args : List Value) :
    Run σ (Answer Rows × Stmt σ) := do
  let (result, s) ← match s.queryContext? with
    | some method => method ctx (NamedValue.ofValues args)
    | none => s.query args
  return (answer result, s)

def closeStmt (s : Stmt σ) : Run σ (Answer Unit) := do
  let result ← s.close
  return answer result

def notClosed (err : DriverError) : LogRecord where
  level := .warn
  target := "sqlhooks::sql"
  message := "Failed to close statement"
  fields := [("error", .text err.display)]

def closeQuietly (s : Stmt σ) : Run σ Unit := do
  match ← s.close with
  | .ok () => return ()
  | .error err => World.log [notClosed err]

def directExec (c : Conn σ) (ctx : Context) (query : String) (args : List Value) :
    Run σ (Result ExecSummary) :=
  match c.execContext? with
  | some method => method ctx query (NamedValue.ofValues args)
  | none =>
    match c.exec? with
    | some method => method query args
    | none => return .error .skip

def directQuery (c : Conn σ) (ctx : Context) (query : String) (args : List Value) :
    Run σ (Result Rows) :=
  match c.queryContext? with
  | some method => method ctx query (NamedValue.ofValues args)
  | none =>
    match c.query? with
    | some method => method query args
    | none => return .error .skip

/-- Prepares a statement, uses it once and closes it; then nothing has the statement any more. -/
def throughStmt (c : Conn σ) (ctx : Context) (query : String)
    (call : Stmt σ → Run σ (Answer α × Stmt σ)) : Run σ (Answer α) := do
  match ← prepare c ctx query with
  | .error err => return .error err
  | .ok stmt => do
    let (result, stmt) ← call stmt
    closeQuietly stmt
    World.exchange [] stmt.contexts
    return result

def exec (c : Conn σ) (ctx : Context) (query : String) (args : List Value) :
    Run σ (Answer ExecSummary) := do
  match ← directExec c ctx query args with
  | .error .skip => throughStmt c ctx query fun s => execStmt s ctx args
  | result => return answer result

def query (c : Conn σ) (ctx : Context) (query : String) (args : List Value) :
    Run σ (Answer Rows) := do
  match ← directQuery c ctx query args with
  | .error .skip => throughStmt c ctx query fun s => queryStmt s ctx args
  | result => return answer result

/-- A connection that can only begin the legacy way takes no options. -/
def begin (c : Conn σ) (ctx : Context) (opts : TxOptions) : Run σ (Answer (Tx σ)) :=
  match c.beginTx? with
  | some method => do
    let tx ← method ctx opts
    return answer tx
  | none =>
    match opts.ensureLegacy with
    | .error err => return .error (.driver err)
    | .ok () => do
      let tx ← c.begin
      return answer tx

/-- A connection that cannot be pinged counts as alive. -/
def ping (c : Conn σ) (ctx : Context) : Run σ (Answer Unit) :=
  match c.ping? with
  | some method => do
    let result ← method ctx
    return answer result
  | none => return .ok ()

def close (c : Conn σ) : Run σ (Answer Unit) := do
  let result ← c.close
  return answer result

def commit (t : Tx σ) : Run σ (Answer Unit × Tx σ) := do
  let (result, t) ← t.commit
  return (answer result, t)

def rollback (t : Tx σ) : Run σ (Answer Unit × Tx σ) := do
  let (result, t) ← t.rollback
  return (answer result, t)

end FrontEnd
end DriverTelemetry
