import DriverTelemetry.Proofs.BaseDrivers
import DriverTelemetry.Proofs.Told

/-!
# Handles of an embedded connection

The statements and transactions of a connection of the embedded database share its database. A call
on any of these handles, with any number of observers around it, leaves the databases of the other
connections alone, and once the connection has been closed it reaches no database at all: what it
can be refused for by itself is still refused first, closing keeps succeeding, and everything else
finds a bad connection.
-/
namespace DriverTelemetry

variable {σ : Type}

namespace BaseCall

/-- What is wrong with a call whatever its connection: names that cannot be bound, or options that
no transaction of the system has. -/
def objection? (system : DatabaseSystem) : BaseCall → Option DriverError
  | .execContext _ _ args | .queryContext _ _ args | .stmtExecContext _ args
  | .stmtQueryContext _ args =>
    if args.any fun arg => arg.name.isSome then some .namedParameters else none
  | .beginTx _ opts =>
    match system with
    | .sqlite | .unknown =>
      if opts.isolation ≠ .default ∧ opts.isolation ≠ .serializable then
        some .unsupportedIsolation
      else if opts.readOnly then some .readOnlyUnsupported else none
    | .postgres | .mysql => none
  | _ => none

/-- What a call on a handle is answered with once its connection has been closed. -/
def afterClose (system : DatabaseSystem) : BaseCall → Response σ
  | .close | .stmtClose => .done (.ok ())
  | call => call.refusal ((call.objection? system).getD .badConn)

theorem afterClose_under (system : DatabaseSystem) (call : BaseCall) (ctx : Context) :
    (call.under ctx).afterClose (σ := σ) system = call.afterClose system := by
  cases call <;> rfl

theorem observed_afterClose (system : DatabaseSystem) (call : BaseCall) (config : Configuration)
    (text : String) (ctx : Context) :
    (call.afterClose (σ := σ) system).observed config text ctx = call.afterClose system := by
  cases call <;> rfl

theorem error?_toValues (args : List NamedValue) :
    Result.error? (NamedValue.toValues args) =
      if args.any fun arg => arg.name.isSome then some .namedParameters else none := by
  rw [NamedValue.toValues_eq]
  split <;> rfl

theorem error?_beginStatements (system : DatabaseSystem) (ctx : Context) (opts : TxOptions) :
    Result.error? (opts.beginStatements system) = (beginTx ctx opts).objection? system := by
  cases system with
  | postgres | mysql => rfl
  | sqlite | unknown =>
    simp only [TxOptions.beginStatements, objection?]
    split
    · rfl
    · split <;> rfl

end BaseCall

/-- How many inputs a handle tells, where it is one of a statement. -/
def Target.inputs : Target σ → Option Nat
  | .stmt s => s.numInput
  | _ => none

namespace Target

theorem takes_stmt (s s' : Stmt σ) : (stmt s).takes = (stmt s').takes := by
  funext call
  cases call <;> rfl

theorem takes_tx (t t' : Tx σ) : (tx t).takes = (tx t').takes := by
  funext call
  cases call <;> rfl

theorem takes_under (t : Target σ) (call : BaseCall) (ctx : Context) :
    t.takes (call.under ctx) = t.takes call := by
  cases t <;> cases call <;> rfl

end Target

theorem Wrapper.takes_target (x : Wrapper σ) (call : BaseCall) :
    x.target.takes call = x.inner.takes call := by
  cases x <;> cases call <;> rfl

theorem Call.run_map {α β : Type} (m : Call σ α) (g : α → β) (s : σ) :
    (do return g (← m) : Call σ β).run s = ((m.run s).1.map g, (m.run s).2) := by
  rw [run_bind]
  split <;> next answered => rw [answered]; rfl

namespace Embedded

variable {δ : Type}

def Databases.Closed (n : Nat) (store : Databases δ) : Prop := store[n]? = some none

namespace Store

variable {α : Type} {n : Nat} {store : Databases δ}

theorem onDatabase_of_closed (closed : store.Closed n) (f : Cached δ → Result α × Cached δ) :
    (onDatabase n f).run store = (.error .badConn, store) := by
  simp only [onDatabase, ExceptT.run, show store[n]? = some none from closed]

theorem getElem?_onDatabase {k : Nat} (other : k ≠ n) (f : Cached δ → Result α × Cached δ) :
    ((onDatabase n f).run store).2[k]? = store[k]? := by
  simp only [onDatabase, ExceptT.run]
  split
  · exact List.getElem?_set_ne (Ne.symm other)
  · rfl

theorem set_of_closed (closed : store.Closed n) : store.set n none = store := by
  obtain ⟨inside, same⟩ := List.getElem?_eq_some_iff.mp closed
  rw [← same]
  exact List.set_getElem_self inside

end Store

/-- The databases are a part of a state: a call on the part is answered as it is alone, and leaves
the part as it does alone. -/
structure Within (part : {α : Type} → Call (Databases δ) α → Call σ α) (view : σ → Databases δ) :
    Prop where
  answer : ∀ {α : Type} (m : Call (Databases δ) α) (s : σ),
    ((part m).run s).1 = (m.run (view s)).1
  left : ∀ {α : Type} (m : Call (Databases δ) α) (s : σ),
    view ((part m).run s).2 = (m.run (view s)).2

variable {part : {α : Type} → Call (Databases δ) α → Call σ α} {view : σ → Databases δ}

/-- A method that needs the database of connection `n`, unless it objects before. -/
structure Needs (view : σ → Databases δ) (n : Nat) (objection : Option DriverError) {α : Type}
    (m : Call σ α) : Prop where
  others : ∀ s k, k ≠ n → (view (m.run s).2)[k]? = (view s)[k]?
  closed : ∀ s, (view s).Closed n →
    (m.run s).1 = .error (objection.getD .badConn) ∧ view (m.run s).2 = view s

namespace Needs

variable {α β : Type} {n : Nat} {objection : Option DriverError}

theorem of_database (within : Within part view) (f : Cached δ → Result α × Cached δ) :
    Needs view n none (part (Store.onDatabase n f)) where
  others s k other := by
    rw [within.left]
    exact Store.getElem?_onDatabase other f
  closed s closed := by
    rw [within.answer, within.left, Store.onDatabase_of_closed closed]
    exact ⟨rfl, rfl⟩

theorem map {m : Call σ α} (needs : Needs view n objection m) (g : α → β) :
    Needs view n objection (do return g (← m)) where
  others s k other := by
    rw [Call.run_map]
    exact needs.others s k other
  closed s closed := by
    obtain ⟨bad, still⟩ := needs.closed s closed
    rw [Call.run_map, bad]
    exact ⟨rfl, still⟩

theorem refuseFirst {r : Result α} {call : α → Call σ β}
    (needs : ∀ a, Needs view n none (call a)) :
    Needs view n (Result.error? r) (refuseFirst r call) := by
  cases r with
  | error err => exact ⟨fun _ _ _ => rfl, fun _ _ => ⟨rfl, rfl⟩⟩
  | ok a => exact needs a

end Needs

theorem needs_named {α : Type} {n : Nat} (within : Within part view) (args : List NamedValue)
    (f : List Value → Cached δ → Result α × Cached δ) :
    Needs view n (if args.any fun arg => arg.name.isSome then some .namedParameters else none)
      (refuseFirst (NamedValue.toValues args) fun values =>
        part (Store.onDatabase n (f values))) := by
  rw [← BaseCall.error?_toValues]
  exact Needs.refuseFirst fun values => .of_database within (f values)

section

variable [Engine δ] (part) (id : BaseId) (system : DatabaseSystem) (n : Nat)

/-- The handles of connection `n`: itself, its statements and its transactions, with any number of
observers around each. -/
inductive HandleOf : Target σ → Prop where
  | conn : HandleOf (.conn (.base (Embedded.conn part id system n)))
  | stmt (text : String) (prepared : Prepared) :
    HandleOf (.stmt (.base (Embedded.stmt part id system n text prepared)))
  | tx : HandleOf (.tx (.base (Embedded.tx part id n)))
  | observed (x : Wrapper σ) (inner : HandleOf x.inner) : HandleOf x.target

/-- What a call on a handle of connection `n` comes to: how it is answered, which handle it leaves
and what becomes of the databases. -/
structure Kept (t : Target σ) (call : BaseCall) (r : Response σ) (left : Target σ)
    (before after : Databases δ) : Prop where
  handle : HandleOf part id system n left
  sort : left.takes = t.takes
  inputs : left.inputs = t.inputs
  created : ∀ c, r.target? = some c → HandleOf part id system n c
  others : ∀ k, k ≠ n → after[k]? = before[k]?
  closing : call = .close → t.takes .close = true → n < before.length → after.Closed n
  closed : before.Closed n → after = before ∧ (t.takes call = true → r = call.afterClose system)

def Keeps (view : σ → Databases δ) (t : Target σ) : Prop :=
  ∀ call (w : World σ), let done := t.perform call w
    Kept part id system n t call done.1.1 done.1.2 (view w.base) (view done.2.base)

end

section

variable [Engine δ] {id : BaseId} {system : DatabaseSystem} {n : Nat} {t : Target σ}

theorem HandleOf.accepts_eq (handle : HandleOf part id system n t) (call : BaseCall) :
    t.accepts call = t.takes call := by
  cases handle with
  | conn => cases call <;> rfl
  | stmt text prepared => cases call <;> rfl
  | tx => cases call <;> rfl
  | observed x inner => cases x <;> cases call <;> rfl

theorem kept_of_declined {call : BaseCall} (handle : HandleOf part id system n t)
    (declined : t.takes call = false) (store : Databases δ) :
    Kept part id system n t call .absent t store store where
  handle := handle
  sort := rfl
  inputs := rfl
  created := nofun
  others _ _ := rfl
  closing same taken := by rw [same, taken] at declined; cases declined
  closed _ := ⟨rfl, fun taken => by rw [taken] at declined; cases declined⟩

theorem kept_of_needs {α : Type} {call : BaseCall} {m : Call σ α} (respond : Result α → Response σ)
    (needs : Needs view n (call.objection? system) m) (handle : HandleOf part id system n t)
    (performed : t.perform call = do
      let r ← World.ask id call m
      return (respond r, t))
    (refused : ∀ err, respond (.error err) = call.refusal err)
    (created : ∀ s c, (respond (m.run s).1).target? = some c → HandleOf part id system n c)
    (open_call : call ≠ .close ∧ call ≠ .stmtClose) (w : World σ) :
    let done := t.perform call w
    Kept part id system n t call done.1.1 done.1.2 (view w.base) (view done.2.base) := by
  rw [performed]
  refine ⟨handle, rfl, rfl, created w.base, needs.others w.base, fun same => ?_, fun closed => ?_⟩
  · exact absurd same open_call.1
  · obtain ⟨bad, still⟩ := needs.closed w.base closed
    refine ⟨still, fun _ => ?_⟩
    have last : call.afterClose system =
        call.refusal (σ := σ) ((call.objection? system).getD .badConn) := by
      unfold BaseCall.afterClose
      split
      · exact absurd rfl open_call.1
      · exact absurd rfl open_call.2
      · rfl
    rw [last, ← refused, ← bad]
    rfl

theorem needs_prepareStmt (within : Within part view) (text : String) :
    Needs view n none (prepareStmt part id system n text) :=
  (Needs.of_database within fun d => d.prepare text).map (stmt part id system n text)

theorem needs_beginTx (within : Within part view) (opts : TxOptions) :
    Needs view n (Result.error? (opts.beginStatements system)) (beginTx part id system n opts) :=
  Needs.refuseFirst fun _ => (Needs.of_database within _).map fun _ => tx part id n

theorem handleOf_prepared (text : String) (s : σ) (c : Target σ)
    (h : (Response.stmt (((prepareStmt part id system n text).run s).1.map .base)).target? =
      some c) : HandleOf part id system n c := by
  cases answered : ((prepareStmt part id system n text).run s).1 with
  | error err => rw [answered] at h; cases h
  | ok made =>
    rw [answered] at h
    cases h
    obtain ⟨prepared, -, last⟩ := Call.answers_bind ⟨s, answered⟩
    rw [Call.answers_pure last]
    exact .stmt text prepared

theorem handleOf_begun (opts : TxOptions) (s : σ) (c : Target σ)
    (h : (Response.tx (((beginTx part id system n opts).run s).1.map .base)).target? = some c) :
    HandleOf part id system n c := by
  cases answered : ((beginTx part id system n opts).run s).1 with
  | error err => rw [answered] at h; cases h
  | ok made =>
    rw [answered] at h
    cases h
    obtain ⟨texts, -, begun⟩ := answers_of_refuseFirst ⟨s, answered⟩
    obtain ⟨-, -, last⟩ := Call.answers_bind begun
    rw [Call.answers_pure last]
    exact .tx

theorem keeps_conn (within : Within part view) :
    Keeps part id system n view (.conn (.base (conn part id system n))) := by
  intro call w
  let t : Target σ := .conn (.base (conn part id system n))
  have handle : HandleOf part id system n t := .conn
  cases call with
  | prepare text | prepareContext _ text =>
    exact kept_of_needs (fun r => .stmt (r.map .base)) (needs_prepareStmt within text) handle rfl
      (fun _ => rfl) (handleOf_prepared text) (by simp) w
  | close =>
    have answered : (t.perform .close w).1.1 = .done (.ok ()) :=
      congrArg Response.done (within.answer (Store.close n) w.base)
    have left : view (t.perform .close w).2.base = (view w.base).set n none :=
      within.left (Store.close n) w.base
    intro done
    rw [answered, left]
    refine ⟨handle, rfl, rfl, nofun, fun k other => ?_, fun _ _ known => ?_, fun closed => ?_⟩
    · exact List.getElem?_set_ne (Ne.symm other)
    · exact List.getElem?_set_self known
    · exact ⟨Store.set_of_closed closed, fun _ => rfl⟩
  | begin =>
    have plain : Result.error? (TxOptions.plain.beginStatements system) = none := by
      cases system <;> rfl
    have needs : Needs view n _ (beginTx part id system n TxOptions.plain) :=
      needs_beginTx within TxOptions.plain
    rw [plain] at needs
    exact kept_of_needs (fun r => .tx (r.map .base)) needs handle rfl (fun _ => rfl)
      (handleOf_begun TxOptions.plain) (by simp) w
  | exec text args =>
    exact kept_of_needs .summary (.of_database within _) handle rfl (fun _ => rfl) nofun (by simp) w
  | execContext ctx text args =>
    exact kept_of_needs .summary (needs_named within args _) handle rfl (fun _ => rfl) nofun
      (by simp) w
  | query text args =>
    exact kept_of_needs .rows (.of_database within _) handle rfl (fun _ => rfl) nofun (by simp) w
  | queryContext ctx text args =>
    exact kept_of_needs .rows (needs_named within args _) handle rfl (fun _ => rfl) nofun
      (by simp) w
  | beginTx ctx opts =>
    have needs : Needs view n _ (beginTx part id system n opts) := needs_beginTx within opts
    rw [BaseCall.error?_beginStatements system ctx opts] at needs
    exact kept_of_needs (fun r => .tx (r.map .base)) needs handle rfl (fun _ => rfl)
      (handleOf_begun opts) (by simp) w
  | ping ctx | resetSession ctx =>
    exact kept_of_needs .done (.of_database within _) handle rfl (fun _ => rfl) nofun (by simp) w
  | _ => exact kept_of_declined handle rfl _

theorem keeps_stmt (within : Within part view) (text : String) (prepared : Prepared) :
    Keeps part id system n view (.stmt (.base (stmt part id system n text prepared))) := by
  intro call w
  have handle : HandleOf part id system n (.stmt (.base (stmt part id system n text prepared))) :=
    .stmt text prepared
  cases call with
  | stmtClose =>
    exact ⟨handle, rfl, rfl, nofun, fun _ _ => rfl, nofun, fun _ => ⟨rfl, fun _ => rfl⟩⟩
  | stmtExec args =>
    exact kept_of_needs .summary (.of_database within _) handle rfl (fun _ => rfl) nofun (by simp) w
  | stmtQuery args =>
    exact kept_of_needs .rows (.of_database within _) handle rfl (fun _ => rfl) nofun (by simp) w
  | stmtExecContext ctx args =>
    exact kept_of_needs .summary (needs_named within args _) handle rfl (fun _ => rfl) nofun
      (by simp) w
  | stmtQueryContext ctx args =>
    exact kept_of_needs .rows (needs_named within args _) handle rfl (fun _ => rfl) nofun
      (by simp) w
  | _ => exact kept_of_declined handle rfl _

theorem keeps_tx (within : Within part view) :
    Keeps part id system n view (.tx (.base (tx part id n))) := by
  intro call w
  have handle : HandleOf part id system n (.tx (.base (tx part id n))) := .tx
  cases call with
  | commit | rollback =>
    exact kept_of_needs .done (.of_database within _) handle rfl (fun _ => rfl) nofun (by simp) w
  | _ => exact kept_of_declined handle rfl _

/-- A call that an embedded handle has is made inside as it is, whatever the observers. -/
theorem treatment_eq {x : Wrapper σ} (inner : HandleOf part id system n x.inner)
    (call : BaseCall) :
    x.treatment call = if x.inner.takes call = false then .silent .absent
      else if call = .stmtClose then .passed else .reported call := by
  unfold Wrapper.treatment
  cases taken : x.inner.takes call with
  | false => rfl
  | true => simp [inner.accepts_eq call, taken]

theorem handleOf_settled {x : Wrapper σ} {left : Target σ}
    (inner : HandleOf part id system n x.inner) (handle : HandleOf part id system n left)
    (inputs : left.inputs = x.inner.inputs) (ctx : Context) :
    HandleOf part id system n (x.settled ctx left) ∧ (x.settled ctx left).takes = x.target.takes ∧
      (x.settled ctx left).inputs = x.target.inputs := by
  have same := HandleOf.observed x inner
  cases x with
  | conn config c => exact ⟨same, rfl, rfl⟩
  | stmt config text carried s =>
    cases left with
    | stmt s' =>
      exact ⟨.observed (.stmt config text ctx s') handle, Target.takes_stmt _ _, inputs⟩
    | _ => exact ⟨same, rfl, rfl⟩
  | tx config carried s =>
    cases left with
    | tx s' => exact ⟨.observed (.tx config ctx s') handle, Target.takes_tx _ _, rfl⟩
    | _ => exact ⟨same, rfl, rfl⟩

theorem handleOf_observed {r : Response σ} {config : Configuration} {text : String} {ctx : Context}
    {c : Target σ} (created : ∀ c, r.target? = some c → HandleOf part id system n c)
    (h : (r.observed config text ctx).target? = some c) : HandleOf part id system n c := by
  match r, h with
  | .stmt (.ok s), rfl => exact .observed (.stmt config text ctx s) (created _ rfl)
  | .tx (.ok t), rfl => exact .observed (.tx config ctx t) (created _ rfl)

/-- Hooks have no part in what a call comes to. -/
theorem keeps_observed {x : Wrapper σ} (inner : HandleOf part id system n x.inner)
    (inside : Keeps part id system n view x.inner) : Keeps part id system n view x.target := by
  intro call w
  have handle := HandleOf.observed x inner
  have treated := treatment_eq inner call
  split at treated
  · next declined =>
    rw [Wrapper.perform_eq, treated]
    exact kept_of_declined handle (by rw [x.takes_target, declined]) _
  · next taken =>
    split at treated
    · next passed =>
      rw [Wrapper.perform_eq, treated]
      have kept := inside call w
      exact { kept with
        handle := handle, sort := rfl, inputs := rfl
        closing := by rw [passed]; nofun
        closed := fun closed =>
          ⟨(kept.closed closed).1, fun _ => (kept.closed closed).2 (by simpa using taken)⟩ }
    · -- The call inside is made in a world with the same databases.
      obtain ⟨a, account, made⟩ := exists_account treated w
      have kept := inside (a.made.under a.exit) a.asked
      have base : a.asked.base = w.base := by rw [account.asked_eq]
      rw [account.inside, base, made] at kept
      obtain ⟨settled, sort, inputs⟩ := handleOf_settled inner kept.handle kept.inputs a.exit
      rw [account.outcome]
      refine ⟨settled, sort, inputs, fun c => handleOf_observed kept.created, kept.others, ?_, ?_⟩
      · rintro rfl taken known
        exact kept.closing rfl (by rw [← x.takes_target, taken]) known
      · intro closed
        obtain ⟨still, answer⟩ := kept.closed closed
        refine ⟨still, fun _ => ?_⟩
        have last : a.response = call.afterClose system :=
          (answer (by rw [Target.takes_under]; simpa using taken)).trans
            (BaseCall.afterClose_under system call a.exit)
        exact (congrArg (Response.observed _ _ _) last).trans
          (BaseCall.observed_afterClose system call _ _ _)

theorem HandleOf.keeps (within : Within part view) (handle : HandleOf part id system n t) :
    Keeps part id system n view t := by
  induction handle with
  | conn => exact keeps_conn within
  | stmt text prepared => exact keeps_stmt within text prepared
  | tx => exact keeps_tx within
  | observed x inner ih => exact keeps_observed inner ih

end

end Embedded

end DriverTelemetry
