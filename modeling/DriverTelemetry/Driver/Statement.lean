import DriverTelemetry.Driver.Capability
import DriverTelemetry.Driver.World

/-!
# Statements

A prepared statement is one of a base driver, or an observed one around another. An observed
statement carries the context that the hooks of its last call returned, and its legacy calls run
under that context. It offers the context-aware calls whatever is inside it: where the statement
inside has only the legacy call, that one is made, and reported as what it is.
-/
namespace DriverTelemetry

inductive Stmt (σ : Type) where
  | base (s : BaseStmt σ)
  | observed (config : Configuration) (text : String) (carried : Context) (inner : Stmt σ)

namespace Stmt

variable {σ α : Type}

def numInput : Stmt σ → Option Nat
  | .base s => s.numInput
  | .observed _ _ _ inner => inner.numInput

/-- Closing is no observed operation. -/
def close : Stmt σ → Run σ (Result Unit)
  | .base s => World.ask s.id .stmtClose s.close
  | .observed _ _ _ inner => inner.close

/-- The contexts that the observers carry. -/
def contexts : Stmt σ → List Context
  | .base _ => []
  | .observed _ _ carried inner => carried :: inner.contexts

/-- Makes one call on the statement inside as an operation of the statement around it, which goes
on with the context that the hooks returned and gives up the one that it carried. -/
def report (config : Configuration) (text : String) (carried ctx : Context)
    (op : Operation) (args : Arguments) (verdict : Result α → Verdict)
    (call : Context → Run σ (Result α × Stmt σ)) : Run σ (Result α × Stmt σ) := do
  let event := ((config.event op).withQuery text).withArgs args
  let (ctx, answer, inner) ← observe config ctx event call fun a => verdict a.1
  World.exchange [ctx] [carried]
  return (answer, .observed config text ctx inner)

def exec (args : List Value) : Stmt σ → Run σ (Result ExecSummary × Stmt σ)
  | .base s => do
    let answer ← World.ask s.id (.stmtExec args) (s.exec args)
    return (answer, .base s)
  | .observed config text carried inner =>
    report config text carried carried .stmtExec (.values args) Verdict.ofExec fun _ =>
      inner.exec args

def query (args : List Value) : Stmt σ → Run σ (Result Rows × Stmt σ)
  | .base s => do
    let answer ← World.ask s.id (.stmtQuery args) (s.query args)
    return (answer, .base s)
  | .observed config text carried inner =>
    report config text carried carried .stmtQuery (.values args) Verdict.ofResult fun _ =>
      inner.query args

/-- Arguments with names are refused before any hook runs where only the legacy call is left. -/
def execContext? : Stmt σ →
    Option (Context → List NamedValue → Run σ (Result ExecSummary × Stmt σ))
  | .base s => s.execContext.map fun method ctx args => do
    let answer ← World.ask s.id (.stmtExecContext ctx args) (method ctx args)
    return (answer, .base s)
  | .observed config text carried inner => some fun ctx args =>
    match inner.execContext? with
    | some method =>
      report config text carried ctx .stmtExecContext (.named args) Verdict.ofExec fun ctx =>
        method ctx args
    | none =>
      match NamedValue.toValues args with
      | .error err => return (.error err, .observed config text carried inner)
      | .ok values =>
        report config text carried ctx .stmtExec (.values values) Verdict.ofExec fun _ =>
          inner.exec values

def queryContext? : Stmt σ → Option (Context → List NamedValue → Run σ (Result Rows × Stmt σ))
  | .base s => s.queryContext.map fun method ctx args => do
    let answer ← World.ask s.id (.stmtQueryContext ctx args) (method ctx args)
    return (answer, .base s)
  | .observed config text carried inner => some fun ctx args =>
    match inner.queryContext? with
    | some method =>
      report config text carried ctx .stmtQueryContext (.named args) Verdict.ofResult fun ctx =>
        method ctx args
    | none =>
      match NamedValue.toValues args with
      | .error err => return (.error err, .observed config text carried inner)
      | .ok values =>
        report config text carried ctx .stmtQuery (.values values) Verdict.ofResult fun _ =>
          inner.query values

def offers (s : Stmt σ) : Capability → Bool
  | .stmtExecContext => s.execContext?.isSome
  | .stmtQueryContext => s.queryContext?.isSome
  | _ => false

def capabilities (s : Stmt σ) : Capabilities := Capability.all.filter s.offers

end Stmt
end DriverTelemetry
