import DriverTelemetry.Proofs.Alike

/-!
# Handles without their observers

Under all its observers a handle is one of a base driver. Where no call on the base driver depends
on the context it is handed, whatever the front-end does with an observed handle is alike to what it
does with the handle underneath, whichever contexts the two calls are made under.
-/
namespace DriverTelemetry

variable {σ α β : Type}

structure BaseStmt.ContextBlind (s : BaseStmt σ) : Prop where
  exec : ∀ m, s.execContext = some m → ∀ ctx ctx' args, m ctx args = m ctx' args
  query : ∀ m, s.queryContext = some m → ∀ ctx ctx' args, m ctx args = m ctx' args

structure BaseConn.ContextBlind (c : BaseConn σ) : Prop where
  exec : ∀ m, c.execContext = some m → ∀ ctx ctx' text args, m ctx text args = m ctx' text args
  query : ∀ m, c.queryContext = some m → ∀ ctx ctx' text args, m ctx text args = m ctx' text args
  prepare : ∀ m, c.prepareContext = some m → ∀ ctx ctx' text, m ctx text = m ctx' text
  begin : ∀ m, c.beginTx = some m → ∀ ctx ctx' opts, m ctx opts = m ctx' opts
  ping : ∀ m, c.ping = some m → ∀ ctx ctx', m ctx = m ctx'
  prepared : ∀ text s, (c.prepare text).Answers (.ok s) → s.ContextBlind
  preparedContext : ∀ m, c.prepareContext = some m → ∀ ctx text s,
    (m ctx text).Answers (.ok s) → s.ContextBlind

structure BaseConnector.ContextBlind (c : BaseConnector σ) : Prop where
  connect : ∀ ctx ctx', c.connect ctx = c.connect ctx'
  connected : ∀ ctx conn, (c.connect ctx).Answers (.ok conn) → conn.ContextBlind

/-- No call depends on the context that it is handed, on whatever the driver opens either. -/
structure BaseDriver.ContextBlind (d : BaseDriver σ) : Prop where
  opened : ∀ dsn conn, (d.openConn dsn).Answers (.ok conn) → conn.ContextBlind
  connector : ∀ m, d.openConnector = some m → ∀ dsn c,
    (m dsn).Answers (.ok c) → c.ContextBlind

namespace Stmt

def unobserved : Stmt σ → Stmt σ
  | .base s => .base s
  | .observed _ _ _ inner => inner.unobserved

def ContextBlind : Stmt σ → Prop
  | .base s => s.ContextBlind
  | .observed _ _ _ inner => inner.ContextBlind

/-- The first statement is blind to contexts, and the second is what is under its observers. -/
def Covers (s s' : Stmt σ) : Prop := s.ContextBlind ∧ s' = s.unobserved

theorem numInput_unobserved (s : Stmt σ) : s.unobserved.numInput = s.numInput := by
  induction s with
  | base s => rfl
  | observed config text carried inner ih => exact ih

theorem alike_close (s : Stmt σ) : Alike Eq s.close s.unobserved.close := by
  induction s with
  | base s => exact .askEq rfl rfl
  | observed config text carried inner ih => exact ih

/-- Whatever is answered is the same, and the statements that are left are again alike. -/
def Leaves (a : Result α × Stmt σ) (b : Result α × Stmt σ) : Prop := a.1 = b.1 ∧ a.2.Covers b.2

theorem alike_report {config : Configuration} {text : String} {carried ctx : Context}
    {op : Operation} {args : Arguments} {verdict : Result α → Verdict}
    {call : Context → Run σ (Result α × Stmt σ)} {q : Run σ (Result α × Stmt σ)}
    (h : ∀ ctx, Alike Leaves (call ctx) q) :
    Alike Leaves (report config text carried ctx op args verdict call) q :=
  (Alike.observe h).exchangeLeft fun _ _ hab => ⟨hab.1, hab.2.1, hab.2.2⟩

theorem alike_ask {id : BaseId} {call call' : BaseCall} {m m' : Call σ α} {s : BaseStmt σ}
    (hc : call.withoutContext = call'.withoutContext) (hm : m = m') (hs : s.ContextBlind) :
    Alike Leaves (do let r ← World.ask id call m; return (r, Stmt.base s))
      (do let r ← World.ask id call' m'; return (r, Stmt.base s)) :=
  (Alike.ask hc hm).map fun _ _ h => ⟨h.1, hs, rfl⟩

def execAny (s : Stmt σ) (ctx : Context) (args : List Value) :
    Run σ (Result ExecSummary × Stmt σ) :=
  match s.execContext? with
  | some method => method ctx (NamedValue.ofValues args)
  | none => s.exec args

def queryAny (s : Stmt σ) (ctx : Context) (args : List Value) : Run σ (Result Rows × Stmt σ) :=
  match s.queryContext? with
  | some method => method ctx (NamedValue.ofValues args)
  | none => s.query args

theorem alike_execAny (s : Stmt σ) (hs : s.ContextBlind) (ctx ctx' : Context) (args : List Value) :
    Alike Leaves (s.execAny ctx args) (s.unobserved.execAny ctx' args) := by
  induction s generalizing ctx with
  | base s =>
    cases h : s.execContext with
    | none =>
      simp only [execAny, unobserved, execContext?, h, Option.map_none]
      exact alike_ask rfl rfl hs
    | some m =>
      simp only [execAny, unobserved, execContext?, h, Option.map_some]
      exact alike_ask rfl (hs.exec m h ctx ctx' (NamedValue.ofValues args)) hs
  | observed config text carried inner ih =>
    cases h : inner.execContext? with
    | none =>
      simp only [execAny, execContext?, h, NamedValue.toValues_ofValues, unobserved]
      exact alike_report fun ctx => by simpa only [execAny, h] using ih hs ctx
    | some m =>
      simp only [execAny, execContext?, h, unobserved]
      exact alike_report fun ctx => by simpa only [execAny, h] using ih hs ctx

theorem alike_queryAny (s : Stmt σ) (hs : s.ContextBlind) (ctx ctx' : Context)
    (args : List Value) :
    Alike Leaves (s.queryAny ctx args) (s.unobserved.queryAny ctx' args) := by
  induction s generalizing ctx with
  | base s =>
    cases h : s.queryContext with
    | none =>
      simp only [queryAny, unobserved, queryContext?, h, Option.map_none]
      exact alike_ask rfl rfl hs
    | some m =>
      simp only [queryAny, unobserved, queryContext?, h, Option.map_some]
      exact alike_ask rfl (hs.query m h ctx ctx' (NamedValue.ofValues args)) hs
  | observed config text carried inner ih =>
    cases h : inner.queryContext? with
    | none =>
      simp only [queryAny, queryContext?, h, NamedValue.toValues_ofValues, unobserved]
      exact alike_report fun ctx => by simpa only [queryAny, h] using ih hs ctx
    | some m =>
      simp only [queryAny, queryContext?, h, unobserved]
      exact alike_report fun ctx => by simpa only [queryAny, h] using ih hs ctx

end Stmt

namespace Tx

def unobserved : Tx σ → Tx σ
  | .base t => .base t
  | .observed _ _ inner => inner.unobserved

/-- The second transaction is what is under the observers of the first. -/
def Covers (t t' : Tx σ) : Prop := t' = t.unobserved

def Leaves (a : Result Unit × Tx σ) (b : Result Unit × Tx σ) : Prop := a.1 = b.1 ∧ a.2.Covers b.2

theorem alike_report {config : Configuration} {carried : Context} {op : Operation}
    {call q : Run σ (Result Unit × Tx σ)} (h : Alike Leaves call q) :
    Alike Leaves (report config carried op call) q :=
  (Alike.observe fun _ => h).exchangeLeft fun _ _ hab => hab

theorem alike_commit (t : Tx σ) : Alike Leaves t.commit t.unobserved.commit := by
  induction t with
  | base t => exact (Alike.ask rfl rfl).map fun _ _ h => ⟨h.1, rfl⟩
  | observed config carried inner ih => exact alike_report ih

theorem alike_rollback (t : Tx σ) : Alike Leaves t.rollback t.unobserved.rollback := by
  induction t with
  | base t => exact (Alike.ask rfl rfl).map fun _ _ h => ⟨h.1, rfl⟩
  | observed config carried inner ih => exact alike_report ih

end Tx

namespace Conn

def unobserved : Conn σ → Conn σ
  | .base c => .base c
  | .observed _ inner => inner.unobserved

def ContextBlind : Conn σ → Prop
  | .base c => c.ContextBlind
  | .observed _ inner => inner.ContextBlind

/-- The first connection is blind to contexts, and the second is what is under its observers. -/
def Covers (c c' : Conn σ) : Prop := c.ContextBlind ∧ c' = c.unobserved

def prepareAny (c : Conn σ) (ctx : Context) (text : String) : Run σ (Result (Stmt σ)) :=
  match c.prepareContext? with
  | some method => method ctx text
  | none => c.prepare text

/-- The context-aware begin where the connection offers it, else the legacy one if that can take
the options. -/
def beginAny (c : Conn σ) (ctx : Context) (opts : TxOptions) : Run σ (Result (Tx σ)) :=
  match c.beginTx? with
  | some method => method ctx opts
  | none =>
    match opts.ensureLegacy with
    | .error err => return .error err
    | .ok () => c.begin

def pingAny (c : Conn σ) (ctx : Context) : Run σ (Result Unit) :=
  match c.ping? with
  | some method => method ctx
  | none => return .ok ()

theorem alike_reportPlain {config : Configuration} {ctx : Context} {op : Operation}
    {text : String} {args : Arguments} {verdict : Result α → Verdict}
    {call : Context → Run σ (Result α)} {q : Run σ (Result α)} (h : ∀ ctx, Alike Eq (call ctx) q) :
    Alike Eq (reportPlain config ctx op text args verdict call) q :=
  (Alike.observe h).mapLeft fun _ _ hab => hab

theorem alike_reportStmt {config : Configuration} {ctx : Context} {op : Operation} {text : String}
    {call : Context → Run σ (Result (Stmt σ))} {q : Run σ (Result (Stmt σ))}
    (h : ∀ ctx, Alike (Agree Stmt.Covers) (call ctx) q) :
    Alike (Agree Stmt.Covers) (reportStmt config ctx op text call) q := by
  refine (Alike.observe h).exchangeLeft fun a b hab => ?_
  obtain ⟨ctx, answer⟩ := a
  cases hab with
  | error err => exact .error err
  | ok covers => exact .ok covers

theorem alike_reportTx {config : Configuration} {ctx : Context} {op : Operation}
    {call : Context → Run σ (Result (Tx σ))} {q : Run σ (Result (Tx σ))}
    (h : ∀ ctx, Alike (Agree Tx.Covers) (call ctx) q) :
    Alike (Agree Tx.Covers) (reportTx config ctx op call) q := by
  refine (Alike.observe h).exchangeLeft fun a b hab => ?_
  obtain ⟨ctx, answer⟩ := a
  cases hab with
  | error err => exact .error err
  | ok covers => exact .ok covers

theorem alike_close (c : Conn σ) : Alike Eq c.close c.unobserved.close := by
  induction c with
  | base c => exact .askEq rfl rfl
  | observed config inner ih => exact .ambient fun _ => alike_reportPlain fun _ => ih

theorem alike_pingAny (c : Conn σ) (hc : c.ContextBlind) (ctx ctx' : Context) :
    Alike Eq (c.pingAny ctx) (c.unobserved.pingAny ctx') := by
  induction c generalizing ctx with
  | base c =>
    cases h : c.ping with
    | none =>
      simp only [pingAny, unobserved, ping?, h, Option.map_none]
      exact .pure rfl
    | some m =>
      simp only [pingAny, unobserved, ping?, h, Option.map_some]
      exact .askEq rfl (hc.ping m h ctx ctx')
  | observed config inner ih =>
    have inside := fun ctx => ih hc ctx
    cases h : inner.ping? with
    | none => simpa only [pingAny, ping?, h, unobserved] using inside ctx
    | some m =>
      simp only [pingAny, h] at inside
      simp only [pingAny, ping?, h, unobserved]
      exact alike_reportPlain inside

theorem alike_prepareAny (c : Conn σ) (hc : c.ContextBlind) (ctx ctx' : Context) (text : String) :
    Alike (Agree Stmt.Covers) (c.prepareAny ctx text) (c.unobserved.prepareAny ctx' text) := by
  induction c generalizing ctx with
  | base c =>
    cases h : c.prepareContext with
    | none =>
      simp only [prepareAny, unobserved, prepareContext?, h, Option.map_none]
      exact .askAs rfl rfl fun s answers => ⟨hc.prepared text s answers, rfl⟩
    | some m =>
      simp only [prepareAny, unobserved, prepareContext?, h, Option.map_some]
      exact .askAs rfl (hc.prepare m h ctx ctx' text) fun s answers =>
        ⟨hc.preparedContext m h ctx text s answers, rfl⟩
  | observed config inner ih =>
    have inside := fun ctx => ih hc ctx
    cases h : inner.prepareContext? with
    | none =>
      simp only [prepareAny, h] at inside
      simp only [prepareAny, prepareContext?, h, unobserved]
      exact alike_reportStmt inside
    | some m =>
      simp only [prepareAny, h] at inside
      simp only [prepareAny, prepareContext?, h, unobserved]
      exact alike_reportStmt inside

theorem alike_beginAny (c : Conn σ) (hc : c.ContextBlind) (ctx ctx' : Context)
    (opts : TxOptions) :
    Alike (Agree Tx.Covers) (c.beginAny ctx opts) (c.unobserved.beginAny ctx' opts) := by
  induction c generalizing ctx with
  | base c =>
    cases h : c.beginTx with
    | none =>
      simp only [beginAny, unobserved, beginTx?, h, Option.map_none]
      cases opts.ensureLegacy with
      | error err => exact .pure (.error err)
      | ok _ => exact .askAs rfl rfl fun _ _ => rfl
    | some m =>
      simp only [beginAny, unobserved, beginTx?, h, Option.map_some]
      exact .askAs rfl (hc.begin m h ctx ctx' opts) fun _ _ => rfl
  | observed config inner ih =>
    have inside := fun ctx => ih hc ctx
    cases h : inner.beginTx? with
    | none =>
      simp only [beginAny, h] at inside
      simp only [beginAny, beginTx?, h, unobserved]
      cases legal : opts.ensureLegacy with
      | error err => simpa only [legal] using inside ctx
      | ok _ =>
        simp only [legal] at inside
        exact alike_reportTx inside
    | some m =>
      simp only [beginAny, h] at inside
      simp only [beginAny, beginTx?, h, unobserved]
      exact alike_reportTx inside

theorem alike_directExec (c : Conn σ) (hc : c.ContextBlind) (ctx ctx' : Context) (text : String)
    (args : List Value) :
    Alike Eq (FrontEnd.directExec c ctx text args)
      (FrontEnd.directExec c.unobserved ctx' text args) := by
  induction c generalizing ctx with
  | base c =>
    simp only [FrontEnd.directExec, unobserved, execContext?, exec?]
    cases h : c.execContext with
    | some m =>
      simp only [Option.map_some]
      exact .askEq rfl (hc.exec m h ctx ctx' text _)
    | none =>
      cases c.exec with
      | some m => exact .askEq rfl rfl
      | none => exact .pure rfl
  | observed config inner ih =>
    have inside := fun ctx => ih hc ctx
    simp only [FrontEnd.directExec, execContext?, unobserved]
    cases h : inner.execContext? with
    | some m =>
      simp only [FrontEnd.directExec, h] at inside
      exact alike_reportPlain inside
    | none =>
      simp only [NamedValue.toValues_ofValues, execVia]
      cases legacy : inner.exec? with
      | some m =>
        simp only [FrontEnd.directExec, h, legacy] at inside
        exact alike_reportPlain inside
      | none => simpa only [FrontEnd.directExec, h, legacy] using inside ctx

theorem alike_directQuery (c : Conn σ) (hc : c.ContextBlind) (ctx ctx' : Context) (text : String)
    (args : List Value) :
    Alike Eq (FrontEnd.directQuery c ctx text args)
      (FrontEnd.directQuery c.unobserved ctx' text args) := by
  induction c generalizing ctx with
  | base c =>
    simp only [FrontEnd.directQuery, unobserved, queryContext?, query?]
    cases h : c.queryContext with
    | some m =>
      simp only [Option.map_some]
      exact .askEq rfl (hc.query m h ctx ctx' text _)
    | none =>
      cases c.query with
      | some m => exact .askEq rfl rfl
      | none => exact .pure rfl
  | observed config inner ih =>
    have inside := fun ctx => ih hc ctx
    simp only [FrontEnd.directQuery, queryContext?, unobserved]
    cases h : inner.queryContext? with
    | some m =>
      simp only [FrontEnd.directQuery, h] at inside
      exact alike_reportPlain inside
    | none =>
      simp only [NamedValue.toValues_ofValues, queryVia]
      cases legacy : inner.query? with
      | some m =>
        simp only [FrontEnd.directQuery, h, legacy] at inside
        exact alike_reportPlain inside
      | none => simpa only [FrontEnd.directQuery, h, legacy] using inside ctx

end Conn

/-- A connection to the data source, under whichever of its ways there is. -/
def Db.reach (db : Db σ) (ctx : Context) : Run σ (Result (Conn σ)) :=
  match db.connector with
  | some connector => connector.connect ctx
  | none => db.driver.openConn db.dsn

/-- Both data sources are reached alike, whichever contexts are handed over. -/
def Db.Covers (db db' : Db σ) : Prop :=
  ∀ ctx ctx', Alike (Agree Conn.Covers) (db.reach ctx) (db'.reach ctx')

namespace Driver

def unobserved : Driver σ → Driver σ
  | .base d => .base d
  | .observed _ inner => inner.unobserved

def ContextBlind : Driver σ → Prop
  | .base d => d.ContextBlind
  | .observed _ inner => inner.ContextBlind

/-- The first driver is blind to contexts, and both are the same under their observers. -/
def Covers (d d' : Driver σ) : Prop := d.ContextBlind ∧ d' = d.unobserved

def dial (d : Driver σ) (dsn : String) : Run σ (Result (Db σ)) :=
  match d.openConnector? with
  | none => return .ok ⟨d, none, dsn⟩
  | some method => do
    let connector ← method dsn
    return connector.map fun c => ⟨d, some c, dsn⟩

def observeDb (config : Configuration) (inner : Driver σ) (db : Db σ) : Db σ where
  driver := .observed config inner
  connector := some <| match db.connector with
    | some connector => .observed config inner connector
    | none => .reopening config db.driver db.dsn
  dsn := db.dsn

theorem reach_observeDb (config : Configuration) (inner : Driver σ) (db : Db σ) (ctx : Context) :
    (observeDb config inner db).reach ctx =
      (do let r ← db.reach ctx; return r.map (Conn.observed config)) := by
  obtain ⟨driver, connector, dsn⟩ := db
  cases connector <;> rfl

theorem dial_observed (config : Configuration) (inner : Driver σ) (dsn : String) :
    (observed config inner).dial dsn =
      (do let r ← inner.dial dsn; return r.map (observeDb config inner)) := by
  cases h : inner.openConnector? with
  | none =>
    simp only [dial, openConnector?, h]
    rfl
  | some m =>
    funext w
    simp only [dial, openConnector?, h, Run.bind_apply]
    cases (m dsn w).1 <;> rfl

theorem alike_openConn (d : BaseDriver σ) (hd : d.ContextBlind) (dsn : String) :
    Alike (Agree Conn.Covers) ((base d).openConn dsn) ((base d).openConn dsn) :=
  Alike.log.bind fun _ _ _ => .askAs rfl rfl fun c answers => ⟨hd.opened dsn c answers, rfl⟩

theorem alike_connect (owner : BaseDriver σ) (c : BaseConnector σ) (hc : c.ContextBlind)
    (ctx ctx' : Context) :
    Alike (Agree Conn.Covers) ((Connector.base owner c).connect ctx)
      ((Connector.base owner c).connect ctx') :=
  Alike.log.bind fun _ _ _ => .askAs rfl (hc.connect ctx ctx') fun conn answers =>
    ⟨hc.connected ctx conn answers, rfl⟩

theorem alike_dial (d : Driver σ) (hd : d.ContextBlind) (dsn : String) :
    Alike (Agree Db.Covers) (d.dial dsn) (d.unobserved.dial dsn) := by
  induction d with
  | base d =>
    cases h : d.openConnector with
    | none =>
      simp only [dial, unobserved, openConnector?, h, Option.map_none]
      exact .pure (.ok fun ctx ctx' => alike_openConn d hd dsn)
    | some m =>
      simp only [dial, unobserved, openConnector?, h, Option.map_some]
      refine Alike.map (R := Agree fun c c' => ∃ b : BaseConnector σ, c = .base d b ∧
        c' = .base d b ∧ b.ContextBlind) ?_ ?_
      · exact .askAs rfl rfl fun b answers => ⟨b, rfl, rfl, hd.connector m h dsn b answers⟩
      · intro r r' agree
        refine agree.map fun c c' ⟨b, hb, hb', blind⟩ ctx ctx' => ?_
        subst hb hb'
        exact alike_connect d b blind ctx ctx'
  | observed config inner ih =>
    rw [dial_observed]
    refine (ih hd).mapLeft fun r r' agree => ?_
    cases agree with
    | error err => exact .error err
    | ok covers =>
      refine .ok fun ctx ctx' => ?_
      rw [reach_observeDb]
      refine (covers ctx ctx').mapLeft fun c c' agree => ?_
      cases agree with
      | error err => exact .error err
      | ok covers => exact .ok covers

end Driver

end DriverTelemetry
