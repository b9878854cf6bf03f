import DriverTelemetry.Driver.World

/-!
# Transactions

An open transaction is one of a base driver, or an observed one around another. An observed one
carries the context of the begin that opened it, and after each commit or rollback the context of
that call. Nothing here keeps a finished transaction from being finished again: the base answers.
-/
namespace DriverTelemetry

inductive Tx (σ : Type) where
  | base (t : BaseTx σ)
  | observed (config : Configuration) (carried : Context) (inner : Tx σ)

namespace Tx

variable {σ : Type}

def contexts : Tx σ → List Context
  | .base _ => []
  | .observed _ carried inner => carried :: inner.contexts

/-- Makes one call on the transaction inside as an operation of the one around it, which gives up
the context that it carried for the one that the hooks returned. -/
def report (config : Configuration) (carried : Context) (op : Operation)
    (call : Run σ (Result Unit × Tx σ)) : Run σ (Result Unit × Tx σ) := do
  let (ctx, answer, inner) ← observe config carried (config.event op) (fun _ => call) fun a =>
    Verdict.ofResult a.1
  World.exchange [ctx] [carried]
  return (answer, .observed config ctx inner)

def commit : Tx σ → Run σ (Result Unit × Tx σ)
  | .base t => do
    let answer ← World.ask t.id .commit t.commit
    return (answer, .base t)
  | .observed config carried inner => report config carried .txCommit inner.commit

def rollback : Tx σ → Run σ (Result Unit × Tx σ)
  | .base t => do
    let answer ← World.ask t.id .rollback t.rollback
    return (answer, .base t)
  | .observed config carried inner => report config carried .txRollback inner.rollback

end Tx
end DriverTelemetry
