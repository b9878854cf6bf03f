import DriverTelemetry.Proofs.EmbeddedHandles

/-!
# What is asked of a database

A call on a handle of an embedded connection, with any number of observers around it, is refused for
what it was handed or comes to one job on the database of the connection. A statement brings nothing
to its jobs but its text.
-/
namespace DriverTelemetry

variable {σ : Type}

namespace BaseCall

theorem refusal_under (err : DriverError) (call : BaseCall) (ctx : Context) :
    (call.under ctx).refusal (σ := σ) err = call.refusal err := by
  cases call <;> rfl

theorem observed_refusal (err : DriverError) (call : BaseCall) (config : Configuration)
    (text : String) (ctx : Context) :
    (call.refusal (σ := σ) err).observed config text ctx = call.refusal err := by
  cases call <;> rfl

theorem eq_close_of_under {call : BaseCall} {ctx : Context} (h : call.under ctx = .close) :
    call = .close := by
  cases call <;> first | rfl | cases h

end BaseCall

theorem Response.target?_observed_eq_none {r : Response σ} (h : r.target? = none)
    (config : Configuration) (text : String) (ctx : Context) :
    (r.observed config text ctx).target? = none := by
  match r, h with
  | .absent, _ | .done _, _ | .summary _, _ | .rows _, _ => rfl
  | .stmt (.error _), _ | .tx (.error _), _ => rfl

namespace Embedded

namespace Store

variable {δ α : Type} {n : Nat} {store : Databases δ} (f : Cached δ → Result α × Cached δ)

theorem onDatabase_of_open {d : Cached δ} (opened : store[n]? = some (some d)) :
    (onDatabase n f).run store = ((f d).1, store.set n (some (f d).2)) := by
  simp only [onDatabase, ExceptT.run, opened]

theorem onDatabase_of_not_open (shut : ∀ d, store[n]? ≠ some (some d)) :
    (onDatabase n f).run store = (.error .badConn, store) := by
  simp only [onDatabase, ExceptT.run]

end Store

inductive Job where
  | exec (text : String) (args : List Value)
  | query (text : String) (args : List Value)
  | prepare (text : String)
  | begin (texts : List String)
  | commit
  | rollback
  | ping
  deriving DecidableEq

/-- How a job ends. Of a statement only the number of its inputs counts here. -/
inductive Outcome where
  | done (r : Result Unit)
  | summary (r : Result ExecSummary)
  | rows (r : Result Rows)
  | prepared (r : Result (Option Nat))
  | begun (r : Result Unit)

namespace Outcome

def ofResponse? : Response σ → Option Outcome
  | .absent => none
  | .done r => some (.done r)
  | .summary r => some (.summary r)
  | .rows r => some (.rows r)
  | .stmt r => some (.prepared (r.map Stmt.numInput))
  | .tx r => some (.begun (r.map fun _ => ()))

theorem ofResponse?_observed (r : Response σ) (config : Configuration) (text : String)
    (ctx : Context) : ofResponse? (r.observed config text ctx) = ofResponse? r := by
  match r with
  | .absent | .done _ | .summary _ | .rows _ => rfl
  | .stmt (.error _) | .stmt (.ok _) | .tx (.error _) | .tx (.ok _) => rfl

end Outcome

namespace Job

def failed (err : DriverError) : Job → Outcome
  | .exec _ _ => .summary (.error err)
  | .query _ _ => .rows (.error err)
  | .prepare _ => .prepared (.error err)
  | .begin _ => .begun (.error err)
  | .commit | .rollback | .ping => .done (.error err)

variable {δ : Type} [Engine δ]

def run (system : DatabaseSystem) (job : Job) (d : Cached δ) : Outcome × Cached δ :=
  match job with
  | .exec text args =>
    let (r, d) := d.exec system text args
    (.summary r, d)
  | .query text args =>
    let (r, d) := d.query text args
    (.rows r, d)
  | .prepare text =>
    let (r, d) := d.prepare text
    (.prepared (r.map fun prepared => some prepared.inputs), d)
  | .begin texts =>
    let (r, d) := d.script texts
    (.begun r, d)
  | .commit =>
    let (r, d) := d.script ["COMMIT"]
    (.done r, d)
  | .rollback =>
    let (r, d) := d.script ["ROLLBACK"]
    (.done r, d)
  | .ping => (.done (.ok ()), d)

/-- A job on the database of connection `n`, if that is open. -/
def on (system : DatabaseSystem) (n : Nat) (job : Job) (store : Databases δ) :
    Outcome × Databases δ :=
  match store[n]? with
  | some (some d) =>
    let (o, d) := job.run system d
    (o, store.set n (some d))
  | _ => (job.failed .badConn, store)

def runAll (system : DatabaseSystem) : List Job → Cached δ → List Outcome × Cached δ
  | [], d => ([], d)
  | job :: jobs, d =>
    let (o, d) := job.run system d
    let (os, d) := runAll system jobs d
    (o :: os, d)

theorem runAll_cons (system : DatabaseSystem) (job : Job) (jobs : List Job) (d : Cached δ) :
    runAll system (job :: jobs) d =
      ((job.run system d).1 :: (runAll system jobs (job.run system d).2).1,
        (runAll system jobs (job.run system d).2).2) := rfl

theorem on_of_open {system : DatabaseSystem} {n : Nat} {job : Job} {store : Databases δ}
    {d : Cached δ} (opened : store[n]? = some (some d)) :
    job.on system n store = ((job.run system d).1, store.set n (some (job.run system d).2)) := by
  simp only [on, opened]

theorem on_of_not_open {system : DatabaseSystem} {n : Nat} {job : Job} {store : Databases δ}
    (shut : ∀ d, store[n]? ≠ some (some d)) :
    job.on system n store = (job.failed .badConn, store) := by
  unfold on
  split
  · next d opened => exact absurd opened (shut d)
  · rfl

end Job

/-- What a handle of a connection is, apart from its observers. -/
inductive Site where
  | conn
  /-- A statement that was prepared from this text. -/
  | stmt (text : String)
  | tx

def Job.site? : Job → Option Site
  | .prepare text => some (.stmt text)
  | .begin _ => some .tx
  | _ => none

/-- The job that a call comes to, or why it is refused before; nothing for the calls that need no
database. -/
def Site.job? (system : DatabaseSystem) : Site → BaseCall → Option (Result Job)
  | .conn, .exec text args => some (.ok (.exec text args))
  | .conn, .execContext _ text args => some ((NamedValue.toValues args).map (.exec text))
  | .conn, .query text args => some (.ok (.query text args))
  | .conn, .queryContext _ text args => some ((NamedValue.toValues args).map (.query text))
  | .conn, .prepare text | .conn, .prepareContext _ text => some (.ok (.prepare text))
  | .conn, .begin => some ((TxOptions.plain.beginStatements system).map .begin)
  | .conn, .beginTx _ opts => some ((opts.beginStatements system).map .begin)
  | .conn, .ping _ | .conn, .resetSession _ => some (.ok .ping)
  | .stmt text, .stmtExec args => some (.ok (.exec text args))
  | .stmt text, .stmtExecContext _ args => some ((NamedValue.toValues args).map (.exec text))
  | .stmt text, .stmtQuery args => some (.ok (.query text args))
  | .stmt text, .stmtQueryContext _ args => some ((NamedValue.toValues args).map (.query text))
  | .tx, .commit => some (.ok .commit)
  | .tx, .rollback => some (.ok .rollback)
  | _, _ => none

theorem Site.job?_under (system : DatabaseSystem) (site : Site) (call : BaseCall) (ctx : Context) :
    site.job? system (call.under ctx) = site.job? system call := by
  cases site <;> cases call <;> rfl

section

variable {δ : Type} [Engine δ] (part : {α : Type} → Call (Databases δ) α → Call σ α) (id : BaseId)
  (system : DatabaseSystem) (n : Nat)

/-- The handles of connection `n` by what they are, with any number of observers around each. -/
inductive At : Site → Target σ → Prop where
  | conn : At .conn (.conn (.base (Embedded.conn part id system n)))
  | stmt (text : String) (prepared : Prepared) :
    At (.stmt text) (.stmt (.base (Embedded.stmt part id system n text prepared)))
  | tx : At .tx (.tx (.base (Embedded.tx part id n)))
  | observed {site : Site} (x : Wrapper σ) (inner : At site x.inner) : At site x.target

/-- What a call on a handle comes to: the response, the handle that it leaves and the databases
before and after it. -/
structure Serves (site : Site) (call : BaseCall) (r : Response σ) (left : Target σ)
    (before after : Databases δ) : Prop where
  handle : At part id system n site left
  refused : ∀ err, site.job? system call = some (.error err) → r = call.refusal err ∧ after = before
  answered : ∀ job, site.job? system call = some (.ok job) →
    Outcome.ofResponse? r = some (job.on system n before).1 ∧ after = (job.on system n before).2
  created : ∀ job c, site.job? system call = some (.ok job) → r.target? = some c →
    ∃ s, job.site? = some s ∧ At part id system n s c
  idle : site.job? system call = none → call ≠ .close → r.target? = none ∧ after = before

end

section

variable {δ : Type} [Engine δ] {part : {α : Type} → Call (Databases δ) α → Call σ α} {id : BaseId}
  {system : DatabaseSystem} {n : Nat} {view : σ → Databases δ} {site : Site} {t : Target σ}

theorem At.handleOf (handle : At part id system n site t) : HandleOf part id system n t := by
  induction handle with
  | conn => exact .conn
  | stmt text prepared => exact .stmt text prepared
  | tx => exact .tx
  | observed x inner ih => exact .observed x ih

theorem At.job?_of_declined (handle : At part id system n site t) {call : BaseCall}
    (declined : t.takes call = false) : site.job? system call = none := by
  induction handle with
  | conn => cases call <;> first | rfl | cases declined
  | stmt text prepared => cases call <;> first | rfl | cases declined
  | tx => cases call <;> first | rfl | cases declined
  | observed x inner ih =>
    rw [x.takes_target] at declined
    exact ih declined

def Fulfils (view : σ → Databases δ) (system : DatabaseSystem) (n : Nat) (job : Job) {α : Type}
    (respond : Result α → Response σ) (m : Call σ α) : Prop :=
  ∀ s, Outcome.ofResponse? (respond (m.run s).1) = some (job.on system n (view s)).1 ∧
    view (m.run s).2 = (job.on system n (view s)).2

theorem Fulfils.of_database (within : Within part view) {α : Type} {job : Job}
    {f : Cached δ → Result α × Cached δ} {respond : Result α → Response σ}
    (runs : ∀ d, Outcome.ofResponse? (respond (f d).1) = some (job.run system d).1 ∧
      (f d).2 = (job.run system d).2)
    (fails : Outcome.ofResponse? (respond (.error .badConn)) = some (job.failed .badConn)) :
    Fulfils view system n job respond (part (Store.onDatabase n f)) := by
  intro s
  rw [within.answer, within.left]
  by_cases opened : ∃ d, (view s)[n]? = some (some d)
  · obtain ⟨d, opened⟩ := opened
    rw [Store.onDatabase_of_open f opened, Job.on_of_open opened]
    exact ⟨(runs d).1, congrArg (fun d => (view s).set n (some d)) (runs d).2⟩
  · have shut := not_exists.mp opened
    rw [Store.onDatabase_of_not_open f shut, Job.on_of_not_open shut]
    exact ⟨fails, rfl⟩

theorem Fulfils.map {α β : Type} {job : Job} {respond : Result α → Response σ}
    {respond' : Result β → Response σ} {m : Call σ α}
    (fulfils : Fulfils view system n job respond m) (g : α → β)
    (same : ∀ r, Outcome.ofResponse? (respond' (r.map g)) = Outcome.ofResponse? (respond r)) :
    Fulfils view system n job respond' (do return g (← m)) := by
  intro s
  rw [Call.run_map, same]
  exact fulfils s

theorem serves_of_ask {α β : Type} {call : BaseCall} {r : Result β} {job : β → Job}
    {m : β → Call σ α} {respond : Result α → Response σ}
    (handle : At part id system n site t) (asked : site.job? system call = some (r.map job))
    (fulfils : ∀ b, Fulfils view system n (job b) respond (m b))
    (performed : t.perform call = do
      let a ← World.ask id call (refuseFirst r m)
      return (respond a, t))
    (refused : ∀ err, respond (.error err) = call.refusal err)
    (created : ∀ b s c, (respond ((m b).run s).1).target? = some c →
      ∃ site, (job b).site? = some site ∧ At part id system n site c) (w : World σ) :
    let done := t.perform call w
    Serves part id system n site call done.1.1 done.1.2 (view w.base) (view done.2.base) := by
  rw [performed]
  cases r with
  | error err =>
    refine ⟨handle, fun err' h => ?_, fun job h => ?_, fun job c h => ?_, fun h => ?_⟩
    · cases asked.symm.trans h
      exact ⟨refused err, rfl⟩
    · cases asked.symm.trans h
    · cases asked.symm.trans h
    · cases asked.symm.trans h
  | ok b =>
    refine ⟨handle, fun err h => ?_, fun job h => ?_, fun job c h gives => ?_, fun h => ?_⟩
    · cases asked.symm.trans h
    · cases asked.symm.trans h
      exact fulfils b w.base
    · cases asked.symm.trans h
      exact created b w.base c gives
    · cases asked.symm.trans h

theorem serves_of_none {call : BaseCall} {r : Response σ} {left : Target σ}
    (handle : At part id system n site left) (asked : site.job? system call = none)
    {before after : Databases δ} (idle : call ≠ .close → r.target? = none ∧ after = before) :
    Serves part id system n site call r left before after where
  handle := handle
  refused _ h := absurd (asked.symm.trans h) nofun
  answered _ h := absurd (asked.symm.trans h) nofun
  created _ _ h := absurd (asked.symm.trans h) nofun
  idle _ := idle

def AlwaysServes (part : {α : Type} → Call (Databases δ) α → Call σ α) (id : BaseId)
    (system : DatabaseSystem) (n : Nat) (view : σ → Databases δ) (site : Site) (t : Target σ) :
    Prop :=
  ∀ call (w : World σ), let done := t.perform call w
    Serves part id system n site call done.1.1 done.1.2 (view w.base) (view done.2.base)

theorem fulfils_exec (within : Within part view) (text : String) (args : List Value) :
    Fulfils view system n (.exec text args) .summary (part (Store.exec system n text args)) :=
  .of_database within (fun _ => ⟨rfl, rfl⟩) rfl

theorem fulfils_query (within : Within part view) (text : String) (args : List Value) :
    Fulfils view system n (.query text args) .rows (part (Store.query n text args)) :=
  .of_database within (fun _ => ⟨rfl, rfl⟩) rfl

theorem fulfils_ping (within : Within part view) :
    Fulfils view system n .ping .done (part (Store.ping n)) :=
  .of_database within (fun _ => ⟨rfl, rfl⟩) rfl

theorem fulfils_prepare (within : Within part view) (text : String) :
    Fulfils view system n (.prepare text) (fun r => .stmt (r.map .base))
      (prepareStmt part id system n text) := by
  have told : Fulfils view system n (.prepare text)
      (fun r => .stmt (r.map fun prepared => .base (stmt part id system n text prepared)))
      (part (Store.prepare n text)) := by
    refine .of_database within (fun d => ⟨?_, rfl⟩) rfl
    cases answered : (d.prepare text).1 <;> simp [Job.run, answered, Outcome.ofResponse?] <;> rfl
  refine told.map _ fun r => ?_
  cases r <;> rfl

theorem fulfils_begin (within : Within part view) (texts : List String) :
    Fulfils view system n (.begin texts) (fun r => .tx (r.map .base))
      (do part (Store.script n texts); return tx part id n) := by
  have told : Fulfils view system n (.begin texts)
      (fun r => .tx (r.map fun _ => .base (tx part id n))) (part (Store.script n texts)) := by
    refine .of_database within (fun d => ⟨?_, rfl⟩) rfl
    cases answered : (d.script texts).1 <;> simp [Job.run, answered, Outcome.ofResponse?] <;> rfl
  refine told.map (fun _ => tx part id n) fun r => ?_
  cases r <;> rfl

theorem serves_of_plain_ask {α : Type} {call : BaseCall} {job : Job} {m : Call σ α}
    {respond : Result α → Response σ} (handle : At part id system n site t)
    (asked : site.job? system call = some (.ok job)) (fulfils : Fulfils view system n job respond m)
    (performed : t.perform call = do
      let a ← World.ask id call m
      return (respond a, t))
    (refused : ∀ err, respond (.error err) = call.refusal err)
    (created : ∀ s c, (respond (m.run s).1).target? = some c →
      ∃ site, job.site? = some site ∧ At part id system n site c) (w : World σ) :
    let done := t.perform call w
    Serves part id system n site call done.1.1 done.1.2 (view w.base) (view done.2.base) :=
  serves_of_ask (r := .ok ()) handle asked (fun _ => fulfils) performed refused
    (fun _ => created) w

theorem at_prepared (text : String) (s : σ) (c : Target σ)
    (h : (Response.stmt (((prepareStmt part id system n text).run s).1.map .base)).target? =
      some c) : At part id system n (.stmt text) c := by
  cases answered : ((prepareStmt part id system n text).run s).1 with
  | error err => rw [answered] at h; cases h
  | ok made =>
    rw [answered] at h
    cases h
    obtain ⟨prepared, -, last⟩ := Call.answers_bind ⟨s, answered⟩
    rw [Call.answers_pure last]
    exact .stmt text prepared

theorem at_begun (texts : List String) (s : σ) (c : Target σ)
    (h : (Response.tx (((do part (Store.script n texts); return tx part id n : Call σ _).run
      s).1.map .base)).target? = some c) : At part id system n .tx c := by
  cases answered : ((do part (Store.script n texts); return tx part id n : Call σ _).run s).1 with
  | error err => rw [answered] at h; cases h
  | ok made =>
    rw [answered] at h
    cases h
    obtain ⟨-, -, last⟩ := Call.answers_bind ⟨s, answered⟩
    rw [Call.answers_pure last]
    exact .tx

theorem serves_conn (within : Within part view) :
    AlwaysServes part id system n view .conn (.conn (.base (conn part id system n))) := by
  intro call w
  have handle : At part id system n .conn (.conn (.base (conn part id system n))) := .conn
  cases call with
  | exec text args =>
    exact serves_of_plain_ask handle rfl (fulfils_exec within text args) rfl (fun _ => rfl) nofun w
  | execContext ctx text args =>
    exact serves_of_ask handle rfl (fulfils_exec within text) rfl (fun _ => rfl) nofun w
  | query text args =>
    exact serves_of_plain_ask handle rfl (fulfils_query within text args) rfl (fun _ => rfl) nofun w
  | queryContext ctx text args =>
    exact serves_of_ask handle rfl (fulfils_query within text) rfl (fun _ => rfl) nofun w
  | prepare text | prepareContext _ text =>
    exact serves_of_plain_ask handle rfl (fulfils_prepare within text) rfl (fun _ => rfl)
      (fun s c gives => ⟨_, rfl, at_prepared text s c gives⟩) w
  | begin | beginTx _ _ =>
    exact serves_of_ask handle rfl (fulfils_begin within) rfl (fun _ => rfl)
      (fun texts s c gives => ⟨_, rfl, at_begun texts s c gives⟩) w
  | ping ctx | resetSession ctx =>
    exact serves_of_plain_ask handle rfl (fulfils_ping within) rfl (fun _ => rfl) nofun w
  | close => exact serves_of_none handle rfl fun other => absurd rfl other
  | _ => exact serves_of_none handle rfl fun _ => ⟨rfl, rfl⟩

theorem serves_stmt (within : Within part view) (text : String) (prepared : Prepared) :
    AlwaysServes part id system n view (.stmt text)
      (.stmt (.base (stmt part id system n text prepared))) := by
  intro call w
  have handle : At part id system n (.stmt text)
      (.stmt (.base (stmt part id system n text prepared))) := .stmt text prepared
  cases call with
  | stmtExec args =>
    exact serves_of_plain_ask handle rfl (fulfils_exec within text args) rfl (fun _ => rfl) nofun w
  | stmtExecContext ctx args =>
    exact serves_of_ask handle rfl (fulfils_exec within text) rfl (fun _ => rfl) nofun w
  | stmtQuery args =>
    exact serves_of_plain_ask handle rfl (fulfils_query within text args) rfl (fun _ => rfl) nofun w
  | stmtQueryContext ctx args =>
    exact serves_of_ask handle rfl (fulfils_query within text) rfl (fun _ => rfl) nofun w
  | _ => exact serves_of_none handle rfl fun _ => ⟨rfl, rfl⟩

theorem serves_tx (within : Within part view) :
    AlwaysServes part id system n view .tx (.tx (.base (tx part id n))) := by
  intro call w
  have handle : At part id system n .tx (.tx (.base (tx part id n))) := .tx
  cases call with
  | commit =>
    have fulfils : Fulfils view system n .commit .done (part (Store.script n ["COMMIT"])) :=
      .of_database within (fun _ => ⟨rfl, rfl⟩) rfl
    exact serves_of_plain_ask handle rfl fulfils rfl (fun _ => rfl) nofun w
  | rollback =>
    have fulfils : Fulfils view system n .rollback .done (part (Store.script n ["ROLLBACK"])) :=
      .of_database within (fun _ => ⟨rfl, rfl⟩) rfl
    exact serves_of_plain_ask handle rfl fulfils rfl (fun _ => rfl) nofun w
  | _ => exact serves_of_none handle rfl fun _ => ⟨rfl, rfl⟩

theorem at_settled {x : Wrapper σ} {left : Target σ} (inner : At part id system n site x.inner)
    (handle : At part id system n site left) (ctx : Context) :
    At part id system n site (x.settled ctx left) := by
  have same := At.observed x inner
  cases x with
  | conn config c => exact same
  | stmt config text carried s =>
    cases left with
    | stmt s' => exact .observed (.stmt config text ctx s') handle
    | _ => exact same
  | tx config carried s =>
    cases left with
    | tx s' => exact .observed (.tx config ctx s') handle
    | _ => exact same

theorem exists_at_observed {r : Response σ} {config : Configuration} {text : String} {ctx : Context}
    {P : Site → Prop} {c : Target σ}
    (created : ∀ c, r.target? = some c → ∃ s, P s ∧ At part id system n s c)
    (h : (r.observed config text ctx).target? = some c) :
    ∃ s, P s ∧ At part id system n s c := by
  match r, h with
  | .stmt (.ok s), rfl =>
    obtain ⟨site, gives, handle⟩ := created _ rfl
    exact ⟨site, gives, .observed (.stmt config text ctx s) handle⟩
  | .tx (.ok t), rfl =>
    obtain ⟨site, gives, handle⟩ := created _ rfl
    exact ⟨site, gives, .observed (.tx config ctx t) handle⟩

/-- Hooks have no part in what a call comes to. -/
theorem serves_observed {x : Wrapper σ} (inner : At part id system n site x.inner)
    (inside : AlwaysServes part id system n view site x.inner) :
    AlwaysServes part id system n view site x.target := by
  intro call w
  have handle := At.observed x inner
  have treated := treatment_eq inner.handleOf call
  split at treated
  · next declined =>
    rw [Wrapper.perform_eq, treated]
    exact serves_of_none handle (inner.job?_of_declined declined) fun _ => ⟨rfl, rfl⟩
  · split at treated
    · next passed =>
      have asked : site.job? system call = none := by
        rw [passed]
        cases site <;> rfl
      rw [Wrapper.perform_eq, treated]
      exact serves_of_none handle asked ((inside call w).idle asked)
    · -- The call inside is made in a world with the same databases.
      obtain ⟨a, account, made⟩ := exists_account treated w
      have served := inside (a.made.under a.exit) a.asked
      have base : a.asked.base = w.base := by rw [account.asked_eq]
      rw [account.inside, base, made] at served
      rw [account.outcome]
      refine ⟨at_settled inner served.handle a.exit, fun err h => ?_, fun job h => ?_,
        fun job c h gives => ?_, fun h other => ?_⟩
      · obtain ⟨refused, still⟩ := served.refused err (by rwa [Site.job?_under])
        refine ⟨?_, still⟩
        rw [show a.response = _ from refused, BaseCall.refusal_under, BaseCall.observed_refusal]
      · obtain ⟨answered, left⟩ := served.answered job (by rwa [Site.job?_under])
        exact ⟨(Outcome.ofResponse?_observed _ _ _ _).trans answered, left⟩
      · have created := fun c => served.created job c (by rwa [Site.job?_under])
        exact exists_at_observed created gives
      · obtain ⟨nothing, still⟩ := served.idle (by rwa [Site.job?_under])
          fun close => other (BaseCall.eq_close_of_under close)
        exact ⟨Response.target?_observed_eq_none nothing _ _ _, still⟩

theorem At.serves (within : Within part view) (handle : At part id system n site t) :
    AlwaysServes part id system n view site t := by
  induction handle with
  | conn => exact serves_conn within
  | stmt text prepared => exact serves_stmt within text prepared
  | tx => exact serves_tx within
  | observed x inner ih => exact serves_observed inner ih

theorem At.perform_of_open (within : Within part view) (handle : At part id system n site t)
    {call : BaseCall} {job : Job} (asked : site.job? system call = some (.ok job)) {w : World σ}
    {d : Cached δ} (opened : (view w.base)[n]? = some (some d)) :
    Outcome.ofResponse? (t.perform call w).1.1 = some (job.run system d).1 ∧
      view (t.perform call w).2.base = (view w.base).set n (some (job.run system d).2) := by
  have answered := (handle.serves within call w).answered job asked
  rwa [Job.on_of_open opened] at answered

theorem At.database_of_open (within : Within part view) (handle : At part id system n site t)
    {call : BaseCall} {job : Job} (asked : site.job? system call = some (.ok job)) {w : World σ}
    {d : Cached δ} (opened : (view w.base)[n]? = some (some d)) :
    (view (t.perform call w).2.base)[n]? = some (some (job.run system d).2) := by
  rw [(handle.perform_of_open within asked opened).2]
  exact List.getElem?_set_self (List.getElem?_eq_some_iff.mp opened).1

end

end Embedded
end DriverTelemetry
