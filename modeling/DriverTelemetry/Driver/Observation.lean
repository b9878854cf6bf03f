import DriverTelemetry.Driver.Target

/-!
# What becomes of a call on an observed handle

A call is made inside as it is where the handle inside accepts it, else in its legacy form where it
has one that is accepted; a call that is made is reported as what it is. The tables of this module
tell the rest without running anything: which calls there are on which handles, what they are
reported as and under which context, and how they are answered where none is made.
-/
namespace DriverTelemetry

/-- Where the context comes from with which the hooks are entered. -/
inductive Origin where
  | caller (ctx : Context)
  | ambient
  | carried

namespace BaseCall

/-- A context that is handed over is used also where the call falls back to its legacy form. -/
def origin : BaseCall → Origin
  | .connect ctx | .execContext ctx _ _ | .queryContext ctx _ _ | .prepareContext ctx _
  | .beginTx ctx _ | .ping ctx | .resetSession ctx | .stmtExecContext ctx _
  | .stmtQueryContext ctx _ => .caller ctx
  | .stmtExec _ | .stmtQuery _ | .commit | .rollback => .carried
  | _ => .ambient

def context? (call : BaseCall) : Option Context :=
  match call.origin with
  | .caller ctx => some ctx
  | _ => none

def under (ctx : Context) : BaseCall → BaseCall
  | .connect _ => .connect ctx
  | .execContext _ text args => .execContext ctx text args
  | .queryContext _ text args => .queryContext ctx text args
  | .prepareContext _ text => .prepareContext ctx text
  | .beginTx _ opts => .beginTx ctx opts
  | .ping _ => .ping ctx
  | .resetSession _ => .resetSession ctx
  | .stmtExecContext _ args => .stmtExecContext ctx args
  | .stmtQueryContext _ args => .stmtQueryContext ctx args
  | call => call

theorem context?_under (call : BaseCall) (ctx : Context) :
    (call.under ctx).context? = call.context?.map fun _ => ctx := by
  cases call <;> rfl

/-- What a call is reported as; closing a statement is none of the operations. -/
def operation : BaseCall → Operation
  | .prepare _ => .connPrepare
  | .close => .connClose
  | .begin => .connBegin
  | .exec _ _ => .connExec
  | .execContext _ _ _ => .connExecContext
  | .query _ _ => .connQuery
  | .queryContext _ _ _ => .connQueryContext
  | .prepareContext _ _ => .connPrepareContext
  | .beginTx _ _ => .connBeginTx
  | .ping _ => .connPing
  | .resetSession _ => .connResetSession
  | .stmtExec _ => .stmtExec
  | .stmtQuery _ => .stmtQuery
  | .stmtExecContext _ _ => .stmtExecContext
  | .stmtQueryContext _ _ => .stmtQueryContext
  | .commit => .txCommit
  | .rollback => .txRollback
  | .openConn _ | .openConnector _ | .connect _ | .stmtClose => .unknown

/-- Empty for a call without a query. -/
def text : BaseCall → String
  | .prepare text | .exec text _ | .execContext _ text _ | .query text _ | .queryContext _ text _
  | .prepareContext _ text => text
  | _ => ""

def arguments : BaseCall → Arguments
  | .exec _ args | .query _ args | .stmtExec args | .stmtQuery args => .values args
  | .execContext _ _ args | .queryContext _ _ args | .stmtExecContext _ args
  | .stmtQueryContext _ args => .named args
  | _ => .none

/-- The capability that stands for a call, unless every handle of its sort has the call. -/
def capability? : BaseCall → Option Capability
  | .exec _ _ => some .execer
  | .execContext _ _ _ => some .execerContext
  | .query _ _ => some .queryer
  | .queryContext _ _ _ => some .queryerContext
  | .prepareContext _ _ => some .prepareContext
  | .beginTx _ _ => some .beginTx
  | .ping _ => some .pinger
  | .resetSession _ => some .sessionResetter
  | .stmtExecContext _ _ => some .stmtExecContext
  | .stmtQueryContext _ _ => some .stmtQueryContext
  | _ => none

/-- The legacy form of a call with a context, or why what it is handed does not fit into one. -/
def legacy? : BaseCall → Option (Result BaseCall)
  | .execContext _ text args => some ((NamedValue.toValues args).map fun vs => .exec text vs)
  | .queryContext _ text args => some ((NamedValue.toValues args).map fun vs => .query text vs)
  | .prepareContext _ text => some (.ok (.prepare text))
  | .beginTx _ opts => some (opts.ensureLegacy.map fun _ => .begin)
  | .stmtExecContext _ args => some ((NamedValue.toValues args).map fun vs => .stmtExec vs)
  | .stmtQueryContext _ args => some ((NamedValue.toValues args).map fun vs => .stmtQuery vs)
  | _ => none

def refusal {σ : Type} (err : DriverError) : BaseCall → Response σ
  | .exec _ _ | .execContext _ _ _ | .stmtExec _ | .stmtExecContext _ _ => .summary (.error err)
  | .query _ _ | .queryContext _ _ _ | .stmtQuery _ | .stmtQueryContext _ _ => .rows (.error err)
  | .prepare _ | .prepareContext _ _ => .stmt (.error err)
  | .begin | .beginTx _ _ => .tx (.error err)
  | _ => .done (.error err)

/-- The answer to a call of which there is no form inside: an exec or query is skipped, a ping or a
reset succeeds. -/
def idle {σ : Type} : BaseCall → Response σ
  | .ping _ | .resetSession _ => .done (.ok ())
  | call => call.refusal .skip

end BaseCall

variable {σ : Type}

namespace Target

/-- Whether handles of this sort have the call, or may have it. -/
def takes : Target σ → BaseCall → Bool
  | .conn _, .prepare _ | .conn _, .close | .conn _, .begin | .conn _, .exec _ _
  | .conn _, .execContext _ _ _ | .conn _, .query _ _ | .conn _, .queryContext _ _ _
  | .conn _, .prepareContext _ _ | .conn _, .beginTx _ _ | .conn _, .ping _
  | .conn _, .resetSession _ => true
  | .stmt _, .stmtClose | .stmt _, .stmtExec _ | .stmt _, .stmtQuery _
  | .stmt _, .stmtExecContext _ _ | .stmt _, .stmtQueryContext _ _ => true
  | .tx _, .commit | .tx _, .rollback => true
  | _, _ => false

def accepts (t : Target σ) (call : BaseCall) : Bool :=
  t.takes call && match call.capability? with
    | some c => t.offers c
    | none => true

/-- The context of a call does not matter to whether it is accepted. -/
theorem accepts_under (t : Target σ) (call : BaseCall) (ctx : Context) :
    t.accepts (call.under ctx) = t.accepts call := by
  cases t <;> cases call <;> rfl

theorem accepts_of_capability {t : Target σ} {call : BaseCall} {c : Capability}
    (taken : t.takes call = true) (h : call.capability? = some c) :
    t.accepts call = t.offers c := by
  simp [accepts, taken, h]

theorem offers_of_accepts {t : Target σ} {call : BaseCall} {c : Capability}
    (accepted : t.accepts call = true) (h : call.capability? = some c) : t.offers c = true := by
  rw [accepts, h, Bool.and_eq_true] at accepted
  exact accepted.2

end Target

inductive Treatment (σ : Type) where
  /-- Answered without any call inside. -/
  | silent (r : Response σ)
  /-- Handed on without any hook. -/
  | passed
  /-- This call is made inside, under the context that the hooks return. -/
  | reported (made : BaseCall)

/-- An observed handle. -/
inductive Wrapper (σ : Type) where
  | conn (config : Configuration) (inner : Conn σ)
  | stmt (config : Configuration) (text : String) (carried : Context) (inner : Stmt σ)
  | tx (config : Configuration) (carried : Context) (inner : Tx σ)

/-- An answer as it is handed on: what a call creates is observed as well, and goes on with the
context that the hooks returned. -/
def Response.observed (config : Configuration) (text : String) (ctx : Context) :
    Response σ → Response σ
  | .stmt r => .stmt (r.map (.observed config text ctx))
  | .tx r => .tx (r.map (.observed config ctx))
  | r => r

namespace Wrapper

def target : Wrapper σ → Target σ
  | .conn config inner => .conn (.observed config inner)
  | .stmt config text carried inner => .stmt (.observed config text carried inner)
  | .tx config carried inner => .tx (.observed config carried inner)

def config : Wrapper σ → Configuration
  | .conn config _ => config
  | .stmt config _ _ _ => config
  | .tx config _ _ => config

def inner : Wrapper σ → Target σ
  | .conn _ inner => .conn inner
  | .stmt _ _ _ inner => .stmt inner
  | .tx _ _ inner => .tx inner

def text? : Wrapper σ → Option String
  | .stmt _ text _ _ => some text
  | _ => none

def carried? : Wrapper σ → Option Context
  | .conn _ _ => none
  | .stmt _ _ carried _ => some carried
  | .tx _ carried _ => some carried

def treatment (x : Wrapper σ) (call : BaseCall) : Treatment σ :=
  if x.inner.takes call = false then .silent .absent
  else if call = .stmtClose then .passed
  else if x.inner.accepts call then .reported call
  else match call.legacy? with
    | none => .silent call.idle
    | some (.error err) => .silent (call.refusal err)
    | some (.ok legacy) =>
      if x.inner.accepts legacy then .reported legacy else .silent call.idle

def entry (x : Wrapper σ) (call : BaseCall) (ambient : Context) : Context :=
  match call.origin with
  | .caller ctx => ctx
  | .ambient => ambient
  | .carried => x.carried?.getD ambient

def event (x : Wrapper σ) (made : BaseCall) : Event :=
  ((x.config.event made.operation).withQuery (x.text?.getD made.text)).withArgs made.arguments

/-- The handle as a reported call leaves it. -/
def settled (x : Wrapper σ) (ctx : Context) (inner : Target σ) : Target σ :=
  match x, inner with
  | .stmt config text _ _, .stmt s => .stmt (.observed config text ctx s)
  | .tx config _ _, .tx t => .tx (.observed config ctx t)
  | _, _ => x.target

/-- The context that the hooks returned is kept by what the call created, and by a handle that
carries one, which gives up the one that it carried. -/
def settle (x : Wrapper σ) (ctx : Context) (r : Response σ) (t : Telemetry) : Telemetry :=
  t.exchange ((x.carried?.toList.map fun _ => ctx) ++ if r.creates then [ctx] else [])
    x.carried?.toList

/-- One call inside between the two passes over the hooks. -/
def report (x : Wrapper σ) (entry : Context) (made : BaseCall) :
    Run σ (Response σ × Target σ) := do
  let (ctx, r, t) ← observe x.config entry (x.event made)
    (fun ctx => x.inner.perform (made.under ctx)) fun a => a.1.verdict
  World.observing fun t => ((), x.settle ctx r t)
  return (r.observed x.config made.text ctx, x.settled ctx t)

/-- What becomes of a call under its treatment. -/
def carryOut (x : Wrapper σ) (call : BaseCall) (entry : Context) :
    Treatment σ → Run σ (Response σ × Target σ)
  | .silent r => return (r, x.target)
  | .passed => do
    let (r, _) ← x.inner.perform call
    return (r, x.target)
  | .reported made => x.report entry made

end Wrapper
end DriverTelemetry
