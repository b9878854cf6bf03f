import DriverTelemetry.FrontEnd.Client
import DriverTelemetry.Proofs.Unobserved
import Mathlib.Data.List.Forall2

/-!
# Observed drivers are transparent

A client of the front-end cannot tell whether the drivers it works with are observed: request by
request it has the same outcome, and the base drivers receive the same calls, contexts apart. The
proof relates the handles of two clients, an observed one to the one underneath, and shows that
every request keeps them related.
-/
namespace DriverTelemetry.FrontEnd

variable {σ α β : Type}

theorem agree_answer {R : α → β → Prop} {r : Result α} {r' : Result β} (h : Agree R r r') :
    Agree R (answer r) (answer r') := h.mapError SqlError.driver

theorem prepare_eq (c : Conn σ) (ctx : Context) (text : String) :
    prepare c ctx text = (do let r ← c.prepareAny ctx text; return answer r) := by
  unfold prepare Conn.prepareAny
  cases c.prepareContext? <;> rfl

theorem begin_eq (c : Conn σ) (ctx : Context) (opts : TxOptions) :
    begin c ctx opts = (do let r ← c.beginAny ctx opts; return answer r) := by
  unfold begin Conn.beginAny
  cases c.beginTx? with
  | some m => rfl
  | none => cases opts.ensureLegacy <;> rfl

theorem ping_eq (c : Conn σ) (ctx : Context) :
    ping c ctx = (do let r ← c.pingAny ctx; return answer r) := by
  unfold ping Conn.pingAny
  cases c.ping? <;> rfl

theorem execStmt_eq (s : Stmt σ) (ctx : Context) (args : List Value) :
    execStmt s ctx args = (do let r ← s.execAny ctx args; return (answer r.1, r.2)) := by
  unfold execStmt Stmt.execAny
  cases s.execContext? <;> rfl

theorem queryStmt_eq (s : Stmt σ) (ctx : Context) (args : List Value) :
    queryStmt s ctx args = (do let r ← s.queryAny ctx args; return (answer r.1, r.2)) := by
  unfold queryStmt Stmt.queryAny
  cases s.queryContext? <;> rfl

theorem connect_eq (db : Db σ) (ctx : Context) :
    connect db ctx = (do let r ← db.reach ctx; return answer r) := by
  unfold connect Db.reach
  cases db.connector <;> rfl

theorem openDb_eq (t : NativeTable σ) (name dsn : String) :
    openDb t name dsn = match t.lookup name with
      | .error err => return .error err
      | .ok d => do let r ← d.dial dsn; return answer r := by
  unfold openDb Driver.dial
  cases t.lookup name with
  | error err => rfl
  | ok d =>
    dsimp only
    cases d.openConnector? <;> rfl

theorem alike_prepare (c : Conn σ) (hc : c.ContextBlind) (ctx ctx' : Context) (text : String) :
    Alike (Agree Stmt.Covers) (prepare c ctx text) (prepare c.unobserved ctx' text) := by
  rw [prepare_eq, prepare_eq]
  exact (c.alike_prepareAny hc ctx ctx' text).map fun _ _ => agree_answer

theorem alike_begin (c : Conn σ) (hc : c.ContextBlind) (ctx ctx' : Context) (opts : TxOptions) :
    Alike (Agree Tx.Covers) (begin c ctx opts) (begin c.unobserved ctx' opts) := by
  rw [begin_eq, begin_eq]
  exact (c.alike_beginAny hc ctx ctx' opts).map fun _ _ => agree_answer

theorem alike_ping (c : Conn σ) (hc : c.ContextBlind) (ctx ctx' : Context) :
    Alike Eq (ping c ctx) (ping c.unobserved ctx') := by
  rw [ping_eq, ping_eq]
  exact (c.alike_pingAny hc ctx ctx').map fun _ _ => congrArg answer

theorem alike_close (c : Conn σ) : Alike Eq (close c) (close c.unobserved) :=
  c.alike_close.map fun _ _ => congrArg answer

/-- The answer of a call on a statement, and the statement that it leaves. -/
def StmtLeaves (a : Answer α × Stmt σ) (b : Answer α × Stmt σ) : Prop :=
  a.1 = b.1 ∧ a.2.Covers b.2

theorem alike_execStmt (s : Stmt σ) (hs : s.ContextBlind) (ctx ctx' : Context)
    (args : List Value) :
    Alike StmtLeaves (execStmt s ctx args) (execStmt s.unobserved ctx' args) := by
  rw [execStmt_eq, execStmt_eq]
  exact (s.alike_execAny hs ctx ctx' args).map fun _ _ h => ⟨congrArg answer h.1, h.2⟩

theorem alike_queryStmt (s : Stmt σ) (hs : s.ContextBlind) (ctx ctx' : Context)
    (args : List Value) :
    Alike StmtLeaves (queryStmt s ctx args) (queryStmt s.unobserved ctx' args) := by
  rw [queryStmt_eq, queryStmt_eq]
  exact (s.alike_queryAny hs ctx ctx' args).map fun _ _ h => ⟨congrArg answer h.1, h.2⟩

theorem alike_closeStmt (s : Stmt σ) : Alike Eq (closeStmt s) (closeStmt s.unobserved) :=
  s.alike_close.map fun _ _ => congrArg answer

theorem alike_closeQuietly (s : Stmt σ) :
    Alike (fun _ _ => True) (closeQuietly s) (closeQuietly s.unobserved) := by
  refine s.alike_close.bind fun r r' same => ?_
  subst same
  cases r with
  | ok _ => exact .pure trivial
  | error err => exact .log

theorem alike_throughStmt (c : Conn σ) (hc : c.ContextBlind) (ctx ctx' : Context) (text : String)
    {call call' : Stmt σ → Run σ (Answer α × Stmt σ)}
    (h : ∀ s : Stmt σ, s.ContextBlind → Alike StmtLeaves (call s) (call' s.unobserved)) :
    Alike Eq (throughStmt c ctx text call) (throughStmt c.unobserved ctx' text call') := by
  refine (alike_prepare c hc ctx ctx' text).bind fun r r' agree => ?_
  cases agree with
  | error err => exact .pure rfl
  | @ok s s' covers =>
    obtain ⟨blind, rfl⟩ := covers
    refine (h s blind).bind fun a b ⟨same, covers⟩ => ?_
    obtain ⟨result, left⟩ := a
    obtain ⟨result', left'⟩ := b
    obtain ⟨-, rfl⟩ := covers
    exact (alike_closeQuietly left).bind fun _ _ _ => Alike.exchange.bind fun _ _ _ => .pure same

theorem alike_exec (c : Conn σ) (hc : c.ContextBlind) (ctx ctx' : Context) (text : String)
    (args : List Value) :
    Alike Eq (exec c ctx text args) (exec c.unobserved ctx' text args) := by
  refine (c.alike_directExec hc ctx ctx' text args).bind fun r r' same => ?_
  subst same
  have through : Alike Eq (throughStmt c ctx text fun s => execStmt s ctx args)
      (throughStmt c.unobserved ctx' text fun s => execStmt s ctx' args) :=
    alike_throughStmt c hc ctx ctx' text fun s hs => alike_execStmt s hs ctx ctx' args
  cases r with
  | ok summary => exact .pure rfl
  | error err => cases err <;> first | exact through | exact .pure rfl

theorem alike_query (c : Conn σ) (hc : c.ContextBlind) (ctx ctx' : Context) (text : String)
    (args : List Value) :
    Alike Eq (query c ctx text args) (query c.unobserved ctx' text args) := by
  refine (c.alike_directQuery hc ctx ctx' text args).bind fun r r' same => ?_
  subst same
  have through : Alike Eq (throughStmt c ctx text fun s => queryStmt s ctx args)
      (throughStmt c.unobserved ctx' text fun s => queryStmt s ctx' args) :=
    alike_throughStmt c hc ctx ctx' text fun s hs => alike_queryStmt s hs ctx ctx' args
  cases r with
  | ok rows => exact .pure rfl
  | error err => cases err <;> first | exact through | exact .pure rfl

theorem alike_commit (t : Tx σ) :
    Alike (fun a b => a.1 = b.1 ∧ a.2.Covers b.2) (commit t) (commit t.unobserved) :=
  t.alike_commit.map fun _ _ h => ⟨congrArg answer h.1, h.2⟩

theorem alike_rollback (t : Tx σ) :
    Alike (fun a b => a.1 = b.1 ∧ a.2.Covers b.2) (rollback t) (rollback t.unobserved) :=
  t.alike_rollback.map fun _ _ h => ⟨congrArg answer h.1, h.2⟩

theorem alike_connect {db db' : Db σ} (h : db.Covers db') (ctx ctx' : Context) :
    Alike (Agree Conn.Covers) (connect db ctx) (connect db' ctx') := by
  rw [connect_eq, connect_eq]
  exact (h ctx ctx').map fun _ _ => agree_answer

theorem alike_openDb {t t' : NativeTable σ} {name : String}
    (h : Agree Driver.Covers (t.lookup name) (t'.lookup name)) (dsn : String) :
    Alike (Agree Db.Covers) (openDb t name dsn) (openDb t' name dsn) := by
  rw [openDb_eq, openDb_eq]
  generalize t.lookup name = found at h
  generalize t'.lookup name = found' at h
  cases h with
  | error err => exact .pure (.error err)
  | @ok d d' covers =>
    obtain ⟨blind, rfl⟩ := covers
    exact (d.alike_dial blind dsn).map fun _ _ => agree_answer

end DriverTelemetry.FrontEnd
