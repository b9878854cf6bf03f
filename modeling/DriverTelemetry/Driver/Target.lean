import DriverTelemetry.Driver.Connection

/-!
# Calls on handles

A connection, a statement or a transaction takes a call as a datum: the method and all that it is
handed. How many inputs a statement has is read off it without a call.
-/
namespace DriverTelemetry

inductive Target (σ : Type) where
  | conn (c : Conn σ)
  | stmt (s : Stmt σ)
  | tx (t : Tx σ)

/-- What a call on a handle is answered with. -/
inductive Response (σ : Type) where
  /-- The handle offers no such call. -/
  | absent
  | done (r : Result Unit)
  | summary (r : Result ExecSummary)
  | rows (r : Result Rows)
  | stmt (r : Result (Stmt σ))
  | tx (r : Result (Tx σ))

namespace Response

variable {σ α : Type}

def error? : Response σ → Option DriverError
  | .absent => none
  | .done r => Result.error? r
  | .summary r => Result.error? r
  | .rows r => Result.error? r
  | .stmt r => Result.error? r
  | .tx r => Result.error? r

def figures? : Response σ → Option ExecSummary
  | .summary (.ok figures) => some figures
  | _ => none

def verdict : Response σ → Verdict
  | .absent => .ok none
  | .done r => .ofResult r
  | .summary r => .ofExec r
  | .rows r => .ofResult r
  | .stmt r => .ofResult r
  | .tx r => .ofResult r

def target? : Response σ → Option (Target σ)
  | .stmt (.ok s) => some (.stmt s)
  | .tx (.ok t) => some (.tx t)
  | _ => none

def creates : Response σ → Bool
  | .stmt r => r.isOk
  | .tx r => r.isOk
  | _ => false

/-- The response of a method, where there is that method. -/
def ofMethod (method : Option α) (call : α → Run σ (Response σ)) : Run σ (Response σ) :=
  match method with
  | some m => call m
  | none => return .absent

end Response

variable {σ : Type}

open Response in
def Conn.perform (c : Conn σ) : BaseCall → Run σ (Response σ)
  | .prepare text => return .stmt (← c.prepare text)
  | .close => return .done (← c.close)
  | .begin => return .tx (← c.begin)
  | .exec text args => ofMethod c.exec? fun m => return .summary (← m text args)
  | .execContext ctx text args =>
    ofMethod c.execContext? fun m => return .summary (← m ctx text args)
  | .query text args => ofMethod c.query? fun m => return .rows (← m text args)
  | .queryContext ctx text args =>
    ofMethod c.queryContext? fun m => return .rows (← m ctx text args)
  | .prepareContext ctx text => ofMethod c.prepareContext? fun m => return .stmt (← m ctx text)
  | .beginTx ctx opts => ofMethod c.beginTx? fun m => return .tx (← m ctx opts)
  | .ping ctx => ofMethod c.ping? fun m => return .done (← m ctx)
  | .resetSession ctx => ofMethod c.resetSession? fun m => return .done (← m ctx)
  | _ => return .absent

def Stmt.perform (s : Stmt σ) : BaseCall → Run σ (Response σ × Stmt σ)
  | .stmtClose => return (.done (← s.close), s)
  | .stmtExec args => do
    let (r, s) ← s.exec args
    return (.summary r, s)
  | .stmtQuery args => do
    let (r, s) ← s.query args
    return (.rows r, s)
  | .stmtExecContext ctx args =>
    match s.execContext? with
    | some m => do
      let (r, s) ← m ctx args
      return (.summary r, s)
    | none => return (.absent, s)
  | .stmtQueryContext ctx args =>
    match s.queryContext? with
    | some m => do
      let (r, s) ← m ctx args
      return (.rows r, s)
    | none => return (.absent, s)
  | _ => return (.absent, s)

def Tx.perform (t : Tx σ) : BaseCall → Run σ (Response σ × Tx σ)
  | .commit => do
    let (r, t) ← t.commit
    return (.done r, t)
  | .rollback => do
    let (r, t) ← t.rollback
    return (.done r, t)
  | _ => return (.absent, t)

namespace Target

/-- A call on a handle, and the handle as the call leaves it. -/
def perform (call : BaseCall) : Target σ → Run σ (Response σ × Target σ)
  | .conn c => return (← c.perform call, .conn c)
  | .stmt s => do
    let (r, s) ← s.perform call
    return (r, .stmt s)
  | .tx t => do
    let (r, t) ← t.perform call
    return (r, .tx t)

def offers : Target σ → Capability → Bool
  | .conn c => c.offers
  | .stmt s => s.offers
  | .tx _ => fun _ => false

def contexts : Target σ → List Context
  | .conn _ => []
  | .stmt s => s.contexts
  | .tx t => t.contexts

/-- The number of the base driver, where the handle is one of a base driver. -/
def baseId? : Target σ → Option BaseId
  | .conn (.base c) => some c.id
  | .stmt (.base s) => some s.id
  | .tx (.base t) => some t.id
  | _ => none

end Target
end DriverTelemetry
