import DriverTelemetry.Driver.Statement
import DriverTelemetry.Driver.Transaction

/-!
# Connections

A connection is one of a base driver, or an observed one around another. An observed connection
offers every call. A context-aware call goes to the matching call inside; where there is none it
falls back to the legacy call, under the caller's context, and is reported as the legacy operation,
so every call that reaches the base is reported exactly once. A call without a context runs under
the ambient one. What cannot even fall back makes no call: an exec or query is skipped, a ping or a
reset succeeds.
-/
namespace DriverTelemetry

inductive Conn (σ : Type) where
  | base (c : BaseConn σ)
  | observed (config : Configuration) (inner : Conn σ)

namespace Conn

variable {σ α : Type}

/-- Makes one call on the connection inside as an operation of the one around it. -/
def report (config : Configuration) (ctx : Context) (op : Operation) (query : String)
    (args : Arguments) (verdict : Result α → Verdict) (call : Context → Run σ (Result α)) :
    Run σ (Context × Result α) :=
  observe config ctx (((config.event op).withQuery query).withArgs args) call verdict

/-- As `report`, for a call whose answer keeps no context. -/
def reportPlain (config : Configuration) (ctx : Context) (op : Operation) (query : String)
    (args : Arguments) (verdict : Result α → Verdict) (call : Context → Run σ (Result α)) :
    Run σ (Result α) := do
  let (_, answer) ← report config ctx op query args verdict call
  return answer

/-- What a call creates keeps the context that the hooks returned. -/
def keptBy (answer : Result α) (ctx : Context) : List Context := if answer.isOk then [ctx] else []

/-- As `report`, for a call that answers with a statement, which is then observed as well. -/
def reportStmt (config : Configuration) (ctx : Context) (op : Operation) (query : String)
    (call : Context → Run σ (Result (Stmt σ))) : Run σ (Result (Stmt σ)) := do
  let (ctx, answer) ← report config ctx op query .none Verdict.ofResult call
  World.exchange (keptBy answer ctx) []
  return answer.map (.observed config query ctx)

/-- As `report`, for a call that answers with a transaction, which is then observed as well. -/
def reportTx (config : Configuration) (ctx : Context) (op : Operation)
    (call : Context → Run σ (Result (Tx σ))) : Run σ (Result (Tx σ)) := do
  let (ctx, answer) ← report config ctx op "" .none Verdict.ofResult call
  World.exchange (keptBy answer ctx) []
  return answer.map (.observed config ctx)

def prepare (query : String) : Conn σ → Run σ (Result (Stmt σ))
  | .base c => do
    let answer ← World.ask c.id (.prepare query) (c.prepare query)
    return answer.map .base
  | .observed config inner => do
    let ctx ← World.ambientContext
    reportStmt config ctx .connPrepare query fun _ => inner.prepare query

def close : Conn σ → Run σ (Result Unit)
  | .base c => World.ask c.id .close c.close
  | .observed config inner => do
    let ctx ← World.ambientContext
    reportPlain config ctx .connClose "" .none Verdict.ofResult fun _ => inner.close

def begin : Conn σ → Run σ (Result (Tx σ))
  | .base c => do
    let answer ← World.ask c.id .begin c.begin
    return answer.map .base
  | .observed config inner => do
    let ctx ← World.ambientContext
    reportTx config ctx .connBegin fun _ => inner.begin

def execVia (config : Configuration)
    (method : Option (String → List Value → Run σ (Result ExecSummary))) (ctx : Context)
    (query : String) (args : List Value) : Run σ (Result ExecSummary) :=
  match method with
  | none => return .error .skip
  | some method =>
    reportPlain config ctx .connExec query (.values args) Verdict.ofExec fun _ => method query args

def queryVia (config : Configuration)
    (method : Option (String → List Value → Run σ (Result Rows))) (ctx : Context)
    (query : String) (args : List Value) : Run σ (Result Rows) :=
  match method with
  | none => return .error .skip
  | some method =>
    reportPlain config ctx .connQuery query (.values args) Verdict.ofResult fun _ =>
      method query args

def exec? : Conn σ → Option (String → List Value → Run σ (Result ExecSummary))
  | .base c => c.exec.map fun method query args =>
    World.ask c.id (.exec query args) (method query args)
  | .observed config inner => some fun query args => do
    let ctx ← World.ambientContext
    execVia config inner.exec? ctx query args

def query? : Conn σ → Option (String → List Value → Run σ (Result Rows))
  | .base c => c.query.map fun method query args =>
    World.ask c.id (.query query args) (method query args)
  | .observed config inner => some fun query args => do
    let ctx ← World.ambientContext
    queryVia config inner.query? ctx query args

/-- Arguments with names are refused before any hook runs where only the legacy call is left. -/
def execContext? : Conn σ →
    Option (Context → String → List NamedValue → Run σ (Result ExecSummary))
  | .base c => c.execContext.map fun method ctx query args =>
    World.ask c.id (.execContext ctx query args) (method ctx query args)
  | .observed config inner => some fun ctx query args =>
    match inner.execContext? with
    | some method =>
      reportPlain config ctx .connExecContext query (.named args) Verdict.ofExec fun ctx =>
        method ctx query args
    | none =>
      match NamedValue.toValues args with
      | .error err => return .error err
      | .ok values => execVia config inner.exec? ctx query values

def queryContext? : Conn σ → Option (Context → String → List NamedValue → Run σ (Result Rows))
  | .base c => c.queryContext.map fun method ctx query args =>
    World.ask c.id (.queryContext ctx query args) (method ctx query args)
  | .observed config inner => some fun ctx query args =>
    match inner.queryContext? with
    | some method =>
      reportPlain config ctx .connQueryContext query (.named args) Verdict.ofResult fun ctx =>
        method ctx query args
    | none =>
      match NamedValue.toValues args with
      | .error err => return .error err
      | .ok values => queryVia config inner.query? ctx query values

def prepareContext? : Conn σ → Option (Context → String → Run σ (Result (Stmt σ)))
  | .base c => c.prepareContext.map fun method ctx query => do
    let answer ← World.ask c.id (.prepareContext ctx query) (method ctx query)
    return answer.map .base
  | .observed config inner => some fun ctx query =>
    match inner.prepareContext? with
    | some method =>
      reportStmt config ctx .connPrepareContext query fun ctx => method ctx query
    | none => reportStmt config ctx .connPrepare query fun _ => inner.prepare query

/-- Options that a legacy begin cannot take are refused before any hook runs. -/
def beginTx? : Conn σ → Option (Context → TxOptions → Run σ (Result (Tx σ)))
  | .base c => c.beginTx.map fun method ctx opts => do
    let answer ← World.ask c.id (.beginTx ctx opts) (method ctx opts)
    return answer.map .base
  | .observed config inner => some fun ctx opts =>
    match inner.beginTx? with
    | some method => reportTx config ctx .connBeginTx fun ctx => method ctx opts
    | none =>
      match opts.ensureLegacy with
      | .error err => return .error err
      | .ok () => reportTx config ctx .connBegin fun _ => inner.begin

def ping? : Conn σ → Option (Context → Run σ (Result Unit))
  | .base c => c.ping.map fun method ctx => World.ask c.id (.ping ctx) (method ctx)
  | .observed config inner => some fun ctx =>
    match inner.ping? with
    | some method =>
      reportPlain config ctx .connPing "" .none Verdict.ofResult fun ctx => method ctx
    | none => return .ok ()

def resetSession? : Conn σ → Option (Context → Run σ (Result Unit))
  | .base c => c.resetSession.map fun method ctx =>
    World.ask c.id (.resetSession ctx) (method ctx)
  | .observed config inner => some fun ctx =>
    match inner.resetSession? with
    | some method =>
      reportPlain config ctx .connResetSession "" .none Verdict.ofResult fun ctx => method ctx
    | none => return .ok ()

def offers (c : Conn σ) : Capability → Bool
  | .execer => c.exec?.isSome
  | .execerContext => c.execContext?.isSome
  | .queryer => c.query?.isSome
  | .queryerContext => c.queryContext?.isSome
  | .prepareContext => c.prepareContext?.isSome
  | .beginTx => c.beginTx?.isSome
  | .pinger => c.ping?.isSome
  | .sessionResetter => c.resetSession?.isSome
  | _ => false

def capabilities (c : Conn σ) : Capabilities := Capability.all.filter c.offers

end Conn
end DriverTelemetry
