import DriverTelemetry.FrontEnd

/-!
# Clients of the front-end

A client works through the front-end alone. It keeps the handles that it is given and names them by
their numbers, in the order in which it got them. What a client can tell of a call is its outcome;
an exchange adds the base calls that were made meanwhile.
-/
namespace DriverTelemetry.FrontEnd

inductive Request where
  | openDb (name dsn : String)
  | connect (db : Nat) (ctx : Context)
  | exec (conn : Nat) (ctx : Context) (query : String) (args : List Value)
  | query (conn : Nat) (ctx : Context) (query : String) (args : List Value)
  | prepare (conn : Nat) (ctx : Context) (query : String)
  | begin (conn : Nat) (ctx : Context) (opts : TxOptions)
  | ping (conn : Nat) (ctx : Context)
  | close (conn : Nat)
  | stmtExec (stmt : Nat) (ctx : Context) (args : List Value)
  | stmtQuery (stmt : Nat) (ctx : Context) (args : List Value)
  | numInput (stmt : Nat)
  | stmtClose (stmt : Nat)
  | commit (tx : Nat)
  | rollback (tx : Nat)

inductive Outcome where
  | noHandle
  /-- Also of a call that gives a handle. -/
  | done (r : Answer Unit)
  | summary (r : Answer ExecSummary)
  | rows (r : Answer Rows)
  | inputs (n : Option Nat)

structure Client (σ : Type) where
  natives : NativeTable σ
  dbs : List (Db σ)
  conns : List (Conn σ)
  stmts : List (Stmt σ)
  txs : List (Tx σ)

/-- What becomes of the base drivers and of the ambient context before a request, and the
request. -/
structure Turn (σ : Type) where
  change : σ → σ
  ambient : Context
  request : Request

structure Exchange where
  outcome : Outcome
  calls : List (BaseId × BaseCall)

namespace Client

variable {σ α : Type}

def fresh (natives : NativeTable σ) : Client σ := ⟨natives, [], [], [], []⟩

def receive (c : Client σ) (r : Answer α) (keep : α → Client σ) : Outcome × Client σ :=
  match r with
  | .ok a => (.done (.ok ()), keep a)
  | .error err => (.done (.error err), c)

def onHandle (c : Client σ) (handle : Option α) (call : α → Run σ (Outcome × Client σ)) :
    Run σ (Outcome × Client σ) :=
  match handle with
  | some a => call a
  | none => return (.noHandle, c)

def perform (c : Client σ) : Request → Run σ (Outcome × Client σ)
  | .openDb name dsn => do
    let r ← openDb c.natives name dsn
    return c.receive r fun db => { c with dbs := c.dbs ++ [db] }
  | .connect n ctx => c.onHandle c.dbs[n]? fun db => do
    let r ← connect db ctx
    return c.receive r fun conn => { c with conns := c.conns ++ [conn] }
  | .exec n ctx query args => c.onHandle c.conns[n]? fun conn => do
    return (.summary (← exec conn ctx query args), c)
  | .query n ctx query args => c.onHandle c.conns[n]? fun conn => do
    return (.rows (← FrontEnd.query conn ctx query args), c)
  | .prepare n ctx query => c.onHandle c.conns[n]? fun conn => do
    let r ← prepare conn ctx query
    return c.receive r fun s => { c with stmts := c.stmts ++ [s] }
  | .begin n ctx opts => c.onHandle c.conns[n]? fun conn => do
    let r ← begin conn ctx opts
    return c.receive r fun t => { c with txs := c.txs ++ [t] }
  | .ping n ctx => c.onHandle c.conns[n]? fun conn => do return (.done (← ping conn ctx), c)
  | .close n => c.onHandle c.conns[n]? fun conn => do return (.done (← close conn), c)
  | .stmtExec n ctx args => c.onHandle c.stmts[n]? fun s => do
    let (r, s) ← execStmt s ctx args
    return (.summary r, { c with stmts := c.stmts.set n s })
  | .stmtQuery n ctx args => c.onHandle c.stmts[n]? fun s => do
    let (r, s) ← queryStmt s ctx args
    return (.rows r, { c with stmts := c.stmts.set n s })
  | .numInput n => c.onHandle c.stmts[n]? fun s => return (.inputs s.numInput, c)
  | .stmtClose n => c.onHandle c.stmts[n]? fun s => do return (.done (← closeStmt s), c)
  | .commit n => c.onHandle c.txs[n]? fun t => do
    let (r, t) ← commit t
    return (.done r, { c with txs := c.txs.set n t })
  | .rollback n => c.onHandle c.txs[n]? fun t => do
    let (r, t) ← rollback t
    return (.done r, { c with txs := c.txs.set n t })

/-- The base calls, contexts apart, that the second world has more than the first. -/
def callsSince (w w' : World σ) : List (BaseId × BaseCall) :=
  Effect.plainCalls (w'.telemetry.effects.drop w.telemetry.effects.length)

def step (turn : Turn σ) (c : Client σ) (w : World σ) : Exchange × Client σ × World σ :=
  let w := { w with base := turn.change w.base, ambient := turn.ambient }
  let ((outcome, c), w') := c.perform turn.request w
  (⟨outcome, callsSince w w'⟩, c, w')

def run : List (Turn σ) → Client σ → World σ → List Exchange
  | [], _, _ => []
  | turn :: turns, c, w =>
    let (exchange, c, w) := step turn c w
    exchange :: run turns c w

end Client
end DriverTelemetry.FrontEnd
