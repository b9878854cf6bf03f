import DriverTelemetry.Proofs.LogStream
import DriverTelemetry.Proofs.Transparency

/-!
# Round trips through a statement

What the front-end's exec and query come to on the base driver, under any number of observers and
whatever the base driver answers: one direct call, if there is one and it is not skipped; else a
statement that is prepared once, used once with the same arguments and closed once. The hooks take
no part in it, so their effects are left out here.
-/
namespace DriverTelemetry

variable {σ α β : Type}

/-- Base calls, and records under other targets than that of the logging hooks. -/
def Effect.isPlain : Effect → Bool
  | .called _ _ => true
  | .logged r => r.target ≠ LogHook.target
  | _ => false

namespace Telemetry

def plain (t : Telemetry) : List Effect := t.effects.filter Effect.isPlain

theorem plain_emit (e : Effect) (t : Telemetry) :
    (t.emit e).plain = t.plain ++ if e.isPlain then [e] else [] := by
  cases h : e.isPlain <;> simp [plain, emit, h]

theorem plain_of_adds {ws : List Effect} {t t' : Telemetry} (h : Adds ws t t') :
    t'.plain = t.plain ++ ws.filter Effect.isPlain := by
  simp only [plain, ← List.filterMap_eq_filter]
  refine h.filterMap ?_
  rintro (_ | _ | _ | _ | _) ⟨⟩ <;> rfl

end Telemetry

theorem Hook.plain_writes (h : Hook) (phase : Phase) (ctx : Context) (e : Event) :
    (h.writes phase ctx e).filter Effect.isPlain = [] := by
  cases h with
  | record name => rfl
  | log hook =>
    cases phase with
    | before => rfl
    | after =>
      rw [writes]
      split
      · rfl
      · exact List.filter_eq_nil_iff.mpr (by simp [Effect.isPlain, LogHook.record])
  | trace hook => cases phase <;> rfl

namespace Configuration

theorem plain_before (c : Configuration) (ctx : Context) (e : Event) (t : Telemetry) :
    (c.before ctx e t).2.plain = t.plain := by
  obtain ⟨vs, -, handed⟩ := c.before_visits ctx e t
  have silent :
      (vs.flatMap fun v => (v.hook.writes .before v.handed e).filter Effect.isPlain) = [] :=
    List.flatMap_eq_nil_iff.mpr fun v _ => v.hook.plain_writes .before v.handed e
  rw [Telemetry.plain_of_adds handed.adds, List.filter_flatMap, silent, List.append_nil]

theorem plain_after (c : Configuration) (ctx : Context) (e : Event) (t : Telemetry) :
    (c.after ctx e t).plain = t.plain := by
  have silent : (c.hooks.flatMap fun h => (h.writes .after ctx e).filter Effect.isPlain) = [] :=
    List.flatMap_eq_nil_iff.mpr fun h _ => h.plain_writes .after ctx e
  rw [Telemetry.plain_of_adds (c.adds_after ctx e t), List.filter_flatMap, silent, List.append_nil]

end Configuration

/-- A run answers, adds plain effects and leaves the base drivers in a state as told here of the
state in which it finds them, whatever the telemetry and the ambient context. -/
def ComesTo (p : Run σ α) (P : σ → List Effect → α → σ → Prop) : Prop :=
  ∀ w : World σ, ∃ es, (p w).2.telemetry.plain = w.telemetry.plain ++ es ∧
    P w.base es (p w).1 (p w).2.base

namespace ComesTo

variable {P : σ → List Effect → α → σ → Prop}

theorem pure (a : α) :
    ComesTo (Pure.pure a : Run σ α) fun s es b s' => es = [] ∧ b = a ∧ s' = s :=
  fun _ => ⟨[], (List.append_nil _).symm, rfl, rfl, rfl⟩

theorem mono {Q : σ → List Effect → α → σ → Prop} {p : Run σ α} (h : ComesTo p P)
    (le : ∀ s es a s', P s es a s' → Q s es a s') : ComesTo p Q := fun w =>
  let ⟨es, plain, told⟩ := h w
  ⟨es, plain, le _ _ _ _ told⟩

theorem map {Q : σ → List Effect → β → σ → Prop} {p : Run σ α} {f : α → β} (h : ComesTo p P)
    (hf : ∀ s es a s', P s es a s' → Q s es (f a) s') :
    ComesTo (p >>= fun a => Pure.pure (f a)) Q := fun w =>
  let ⟨es, plain, told⟩ := h w
  ⟨es, plain, hf _ _ _ _ told⟩

theorem ambient {p : Context → Run σ α} (h : ∀ ctx, ComesTo (p ctx) P) :
    ComesTo (World.ambientContext >>= p) P := fun w => h w.ambient w

theorem ask (id : BaseId) (call : BaseCall) (method : Call σ α) :
    ComesTo (World.ask id call method) fun s es r s' =>
      es = [.called id call] ∧ method.run s = (r, s') := fun w =>
  ⟨[.called id call], Telemetry.plain_emit (.called id call) w.telemetry, rfl, rfl⟩

/-- Hooks around a call change nothing of what it comes to. -/
theorem observe {config : Configuration} {ctx : Context} {event : Event}
    {call : Context → Run σ α} {verdict : α → Verdict} (h : ∀ ctx, ComesTo (call ctx) P) :
    ComesTo (DriverTelemetry.observe config ctx event call verdict) fun s es a s' =>
      P s es a.2 s' := by
  intro w
  let first := config.before ctx event w.telemetry
  obtain ⟨es, plain, told⟩ := h first.1 { w with telemetry := first.2.tick.2 }
  refine ⟨es, ?_, told⟩
  have before : first.2.tick.2.plain = w.telemetry.plain :=
    config.plain_before ctx event w.telemetry
  exact (config.plain_after _ _ _).trans (plain.trans (congrArg (· ++ es) before))

theorem exchange {Q : σ → List Effect → β → σ → Prop} {p : Run σ α}
    {kept givenUp : α → List Context} {f : α → β} (h : ComesTo p P)
    (hf : ∀ s es a s', P s es a s' → Q s es (f a) s') :
    ComesTo (p >>= fun a => World.exchange (kept a) (givenUp a) >>= fun _ => Pure.pure (f a))
      Q := fun w =>
  let ⟨es, plain, told⟩ := h w
  let t := (p w).2.telemetry
  let handed := Telemetry.plain_of_adds (t.adds_exchange (kept (p w).1) (givenUp (p w).1))
  ⟨es, handed.trans ((List.append_nil _).trans plain), hf _ _ _ _ told⟩

end ComesTo

/-- A base call and the method that answers it. -/
structure Ask (σ α : Type) where
  id : BaseId
  call : BaseCall
  method : Call σ α

def Ask.effect (a : Ask σ α) : Effect := .called a.id a.call

/-- The ways in which a base driver may offer a call: with a context, or in the legacy form. -/
structure Ways (σ α : Type) where
  aware : Option (Context → Ask σ α)
  legacy : Option (Ask σ α)

namespace Ways

/-- The call with a context goes before the legacy one. -/
inductive Uses (ways : Ways σ α) : Ask σ α → Prop where
  | aware {f : Context → Ask σ α} (offered : ways.aware = some f) (ctx : Context) :
      Uses ways (f ctx)
  | legacy {a : Ask σ α} (unaware : ways.aware = none) (offered : ways.legacy = some a) :
      Uses ways a

theorem uses_method {μ : Type} {method? : Option μ} {f : μ → Context → Ask σ α}
    {legacy : Option (Ask σ α)} {m : μ} (h : method? = some m) (ctx : Context) :
    Uses ⟨method?.map f, legacy⟩ (f m ctx) := .aware (congrArg (Option.map f) h) ctx

theorem uses_legacy {μ : Type} {method? : Option μ} {f : μ → Context → Ask σ α}
    {legacy : Option (Ask σ α)} {a : Ask σ α} (h : method? = none) (offered : legacy = some a) :
    Uses ⟨method?.map f, legacy⟩ a := .legacy (congrArg (Option.map f) h) offered

structure Made (ways : Ways σ α) (a : Ask σ α) (s : σ) (r : Result α) (s' : σ) : Prop where
  used : ways.Uses a
  answered : a.method.run s = (r, s')

/-- There is no way, or the one base call is answered with a skip. -/
inductive Skipped (ways : Ways σ α) (s : σ) : List Effect → σ → Prop where
  | unoffered (aware : ways.aware = none) (legacy : ways.legacy = none) : Skipped ways s [] s
  | answered {a : Ask σ α} {s' : σ} (made : ways.Made a s (.error .skip) s') :
      Skipped ways s [a.effect] s'

/-- One base call where there is a way, and else a skip. -/
inductive Asked (ways : Ways σ α) (s : σ) : List Effect → Result α → σ → Prop where
  | unoffered (aware : ways.aware = none) (legacy : ways.legacy = none) :
      Asked ways s [] (.error .skip) s
  | made {a : Ask σ α} {r : Result α} {s' : σ} (made : ways.Made a s r s') :
      Asked ways s [a.effect] r s'

theorem Asked.skipped {ways : Ways σ α} {s s' : σ} {es : List Effect}
    (h : ways.Asked s es (.error .skip) s') : ways.Skipped s es s' := by
  cases h with
  | unoffered aware legacy => exact .unoffered aware legacy
  | made made => exact .answered made

theorem Asked.exists_made {ways : Ways σ α} {s s' : σ} {es : List Effect} {r : Result α}
    (h : ways.Asked s es r s') (final : r ≠ .error .skip) :
    ∃ a, es = [a.effect] ∧ ways.Made a s r s' := by
  cases h with
  | unoffered aware legacy => exact absurd rfl final
  | made made => exact ⟨_, rfl, made⟩

end Ways

namespace BaseConn

def directExec (c : BaseConn σ) (text : String) (args : List Value) : Ways σ ExecSummary where
  aware := c.execContext.map fun method ctx =>
    let named := NamedValue.ofValues args
    ⟨c.id, .execContext ctx text named, method ctx text named⟩
  legacy := c.exec.map fun method => ⟨c.id, .exec text args, method text args⟩

def directQuery (c : BaseConn σ) (text : String) (args : List Value) : Ways σ Rows where
  aware := c.queryContext.map fun method ctx =>
    let named := NamedValue.ofValues args
    ⟨c.id, .queryContext ctx text named, method ctx text named⟩
  legacy := c.query.map fun method => ⟨c.id, .query text args, method text args⟩

def preparing (c : BaseConn σ) (text : String) : Ways σ (BaseStmt σ) where
  aware := c.prepareContext.map fun method ctx => ⟨c.id, .prepareContext ctx text, method ctx text⟩
  legacy := some ⟨c.id, .prepare text, c.prepare text⟩

end BaseConn

namespace BaseStmt

def executing (args : List Value) (s : BaseStmt σ) : Ways σ ExecSummary where
  aware := s.execContext.map fun method ctx =>
    let named := NamedValue.ofValues args
    ⟨s.id, .stmtExecContext ctx named, method ctx named⟩
  legacy := some ⟨s.id, .stmtExec args, s.exec args⟩

def querying (args : List Value) (s : BaseStmt σ) : Ways σ Rows where
  aware := s.queryContext.map fun method ctx =>
    let named := NamedValue.ofValues args
    ⟨s.id, .stmtQueryContext ctx named, method ctx named⟩
  legacy := some ⟨s.id, .stmtQuery args, s.query args⟩

end BaseStmt

namespace Stmt

def bottom : Stmt σ → BaseStmt σ
  | .base s => s
  | .observed _ _ _ inner => inner.bottom

/-- A call in one of these ways, after which the statement is still around the same one. -/
def Used (bottom : BaseStmt σ) (ways : Ways σ α) (s : σ) (es : List Effect) (a : Result α × Stmt σ)
    (s' : σ) : Prop := ∃ u : Ask σ α, es = [u.effect] ∧ ways.Made u s a.1 s' ∧ a.2.bottom = bottom

theorem comesTo_ask {id : BaseId} {call : BaseCall} {method : Call σ α} {s : BaseStmt σ}
    {ways : Ways σ α} (used : ways.Uses ⟨id, call, method⟩) :
    ComesTo (do let r ← World.ask id call method; return (r, Stmt.base s)) (Used s ways) :=
  (ComesTo.ask id call method).map fun _ _ _ _ ⟨called, answered⟩ =>
    ⟨⟨id, call, method⟩, called, ⟨used, answered⟩, rfl⟩

theorem comesTo_report {config : Configuration} {text : String} {carried ctx : Context}
    {op : Operation} {args : Arguments} {verdict : Result α → Verdict}
    {call : Context → Run σ (Result α × Stmt σ)} {bottom : BaseStmt σ} {ways : Ways σ α}
    (h : ∀ ctx, ComesTo (call ctx) (Used bottom ways)) :
    ComesTo (report config text carried ctx op args verdict call) (Used bottom ways) :=
  (ComesTo.observe h).exchange fun _ _ _ _ used => used

theorem comesTo_execAny (s : Stmt σ) (ctx : Context) (args : List Value) :
    ComesTo (s.execAny ctx args) (Used s.bottom (s.bottom.executing args)) := by
  induction s generalizing ctx with
  | base s =>
    cases h : s.execContext with
    | none =>
      simp only [execAny, execContext?, h, Option.map_none]
      exact comesTo_ask (Ways.uses_legacy h rfl)
    | some m =>
      simp only [execAny, execContext?, h, Option.map_some]
      exact comesTo_ask (Ways.uses_method h ctx)
  | observed config text carried inner ih =>
    cases h : inner.execContext? with
    | none =>
      simp only [execAny, execContext?, h, NamedValue.toValues_ofValues, bottom]
      exact comesTo_report fun ctx => by simpa only [execAny, h] using ih ctx
    | some m =>
      simp only [execAny, execContext?, h, bottom]
      exact comesTo_report fun ctx => by simpa only [execAny, h] using ih ctx

theorem comesTo_queryAny (s : Stmt σ) (ctx : Context) (args : List Value) :
    ComesTo (s.queryAny ctx args) (Used s.bottom (s.bottom.querying args)) := by
  induction s generalizing ctx with
  | base s =>
    cases h : s.queryContext with
    | none =>
      simp only [queryAny, queryContext?, h, Option.map_none]
      exact comesTo_ask (Ways.uses_legacy h rfl)
    | some m =>
      simp only [queryAny, queryContext?, h, Option.map_some]
      exact comesTo_ask (Ways.uses_method h ctx)
  | observed config text carried inner ih =>
    cases h : inner.queryContext? with
    | none =>
      simp only [queryAny, queryContext?, h, NamedValue.toValues_ofValues, bottom]
      exact comesTo_report fun ctx => by simpa only [queryAny, h] using ih ctx
    | some m =>
      simp only [queryAny, queryContext?, h, bottom]
      exact comesTo_report fun ctx => by simpa only [queryAny, h] using ih ctx

theorem comesTo_close (s : Stmt σ) :
    ComesTo s.close fun st es r st' =>
      es = [.called s.bottom.id .stmtClose] ∧ s.bottom.close.run st = (r, st') := by
  induction s with
  | base s => exact .ask s.id .stmtClose s.close
  | observed config text carried inner ih => exact ih

end Stmt

namespace Conn

def bottom : Conn σ → BaseConn σ
  | .base c => c
  | .observed _ inner => inner.bottom

theorem comesTo_reportPlain {config : Configuration} {ctx : Context} {op : Operation}
    {text : String} {args : Arguments} {verdict : Result α → Verdict}
    {call : Context → Run σ (Result α)} {P : σ → List Effect → Result α → σ → Prop}
    (h : ∀ ctx, ComesTo (call ctx) P) :
    ComesTo (reportPlain config ctx op text args verdict call) P :=
  (ComesTo.observe h).map fun _ _ _ _ told => told

theorem comesTo_ask {id : BaseId} {call : BaseCall} {method : Call σ α} {ways : Ways σ α}
    (used : ways.Uses ⟨id, call, method⟩) :
    ComesTo (World.ask id call method) ways.Asked :=
  (ComesTo.ask id call method).mono fun _ _ _ _ ⟨called, answered⟩ => by
    subst called
    exact .made (a := ⟨id, call, method⟩) ⟨used, answered⟩

theorem comesTo_skip {ways : Ways σ α} (aware : ways.aware = none) (legacy : ways.legacy = none) :
    ComesTo (return .error .skip : Run σ (Result α)) ways.Asked :=
  (ComesTo.pure (Except.error DriverError.skip)).mono fun s es r s' ⟨added, answer, left⟩ => by
    subst added answer left
    exact Ways.Asked.unoffered aware legacy

theorem comesTo_directExec (c : Conn σ) (ctx : Context) (text : String) (args : List Value) :
    ComesTo (FrontEnd.directExec c ctx text args) (c.bottom.directExec text args).Asked := by
  induction c generalizing ctx with
  | base c =>
    simp only [FrontEnd.directExec, execContext?, exec?]
    cases h : c.execContext with
    | some m => exact comesTo_ask (Ways.uses_method h ctx)
    | none =>
      cases h' : c.exec with
      | some m => exact comesTo_ask (Ways.uses_legacy h (congrArg (Option.map _) h'))
      | none => exact comesTo_skip (congrArg (Option.map _) h) (congrArg (Option.map _) h')
  | observed config inner ih =>
    simp only [FrontEnd.directExec, execContext?, bottom]
    cases h : inner.execContext? with
    | some m =>
      simp only [FrontEnd.directExec, h] at ih
      exact comesTo_reportPlain ih
    | none =>
      simp only [NamedValue.toValues_ofValues, execVia]
      cases legacy : inner.exec? with
      | some m =>
        simp only [FrontEnd.directExec, h, legacy] at ih
        exact comesTo_reportPlain ih
      | none => simpa only [FrontEnd.directExec, h, legacy] using ih ctx

theorem comesTo_directQuery (c : Conn σ) (ctx : Context) (text : String) (args : List Value) :
    ComesTo (FrontEnd.directQuery c ctx text args) (c.bottom.directQuery text args).Asked := by
  induction c generalizing ctx with
  | base c =>
    simp only [FrontEnd.directQuery, queryContext?, query?]
    cases h : c.queryContext with
    | some m => exact comesTo_ask (Ways.uses_method h ctx)
    | none =>
      cases h' : c.query with
      | some m => exact comesTo_ask (Ways.uses_legacy h (congrArg (Option.map _) h'))
      | none => exact comesTo_skip (congrArg (Option.map _) h) (congrArg (Option.map _) h')
  | observed config inner ih =>
    simp only [FrontEnd.directQuery, queryContext?, bottom]
    cases h : inner.queryContext? with
    | some m =>
      simp only [FrontEnd.directQuery, h] at ih
      exact comesTo_reportPlain ih
    | none =>
      simp only [NamedValue.toValues_ofValues, queryVia]
      cases legacy : inner.query? with
      | some m =>
        simp only [FrontEnd.directQuery, h, legacy] at ih
        exact comesTo_reportPlain ih
      | none => simpa only [FrontEnd.directQuery, h, legacy] using ih ctx

/-- A statement of the base driver is prepared, whatever observers are around it then. -/
def Prepares (ways : Ways σ (BaseStmt σ)) (s : σ) (es : List Effect) (r : Result (Stmt σ))
    (s' : σ) : Prop :=
  ∃ p : Ask σ (BaseStmt σ), es = [p.effect] ∧ ways.Made p s (r.map Stmt.bottom) s'

theorem comesTo_reportStmt {config : Configuration} {ctx : Context} {op : Operation} {text : String}
    {call : Context → Run σ (Result (Stmt σ))} {ways : Ways σ (BaseStmt σ)}
    (h : ∀ ctx, ComesTo (call ctx) (Prepares ways)) :
    ComesTo (reportStmt config ctx op text call) (Prepares ways) := by
  refine (ComesTo.observe h).exchange fun s es a s' prepares => ?_
  obtain ⟨ctx, answer⟩ := a
  cases answer <;> exact prepares

theorem comesTo_prepared {id : BaseId} {call : BaseCall} {method : Call σ (BaseStmt σ)}
    {ways : Ways σ (BaseStmt σ)} (used : ways.Uses ⟨id, call, method⟩) :
    ComesTo (do let r ← World.ask id call method; return r.map Stmt.base) (Prepares ways) := by
  refine (ComesTo.ask id call method).map fun s es r s' ⟨called, answered⟩ => ?_
  have same : (r.map Stmt.base).map Stmt.bottom = r := by cases r <;> rfl
  exact ⟨⟨id, call, method⟩, called, used, by rw [same]; exact answered⟩

theorem comesTo_prepareAny (c : Conn σ) (ctx : Context) (text : String) :
    ComesTo (c.prepareAny ctx text) (Prepares (c.bottom.preparing text)) := by
  induction c generalizing ctx with
  | base c =>
    cases h : c.prepareContext with
    | none =>
      simp only [prepareAny, prepareContext?, h, Option.map_none]
      exact comesTo_prepared (Ways.uses_legacy h rfl)
    | some m =>
      simp only [prepareAny, prepareContext?, h, Option.map_some]
      exact comesTo_prepared (Ways.uses_method h ctx)
  | observed config inner ih =>
    cases h : inner.prepareContext? with
    | none =>
      simp only [prepareAny, h] at ih
      simp only [prepareAny, prepareContext?, h, bottom]
      exact comesTo_reportStmt ih
    | some m =>
      simp only [prepareAny, h] at ih
      simp only [prepareAny, prepareContext?, h, bottom]
      exact comesTo_reportStmt ih

end Conn

namespace FrontEnd

/-- What is logged of the end of a statement: one record of the error, if there was one. -/
def closeRecords : Result Unit → List LogRecord
  | .ok () => []
  | .error err => [notClosed err]

/-- The course of an exec or a query of the front-end on the base driver: in which state it finds
the driver, its plain effects, its outcome, and in which state it leaves the driver. -/
inductive RoundTrip (direct : Ways σ α) (preparing : Ways σ (BaseStmt σ))
    (usage : BaseStmt σ → Ways σ α) (s : σ) : List Effect → Answer α → σ → Prop where
  /-- The direct call is answered with anything but a skip, and nothing is prepared. -/
  | direct {a : Ask σ α} {r : Result α} {s₁ : σ} (made : direct.Made a s r s₁)
      (final : r ≠ .error .skip) : RoundTrip direct preparing usage s [a.effect] (answer r) s₁
  /-- Preparing fails, and nothing is used or closed. -/
  | unprepared {es : List Effect} {p : Ask σ (BaseStmt σ)} {err : DriverError} {s₁ s₂ : σ}
      (skipped : direct.Skipped s es s₁) (failed : preparing.Made p s₁ (.error err) s₂) :
      RoundTrip direct preparing usage s (es ++ [p.effect]) (answer (.error err)) s₂
  /-- The statement is used and closed, and the outcome is that of its use. -/
  | used {es : List Effect} {p : Ask σ (BaseStmt σ)} {stmt : BaseStmt σ} {u : Ask σ α}
      {r : Result α} {closing : Result Unit} {s₁ s₂ s₃ s₄ : σ} (skipped : direct.Skipped s es s₁)
      (prepared : preparing.Made p s₁ (.ok stmt) s₂) (used : (usage stmt).Made u s₂ r s₃)
      (closed : stmt.close.run s₃ = (closing, s₄)) :
      RoundTrip direct preparing usage s
        (es ++ p.effect :: u.effect :: .called stmt.id .stmtClose ::
          (closeRecords closing).map .logged) (answer r) s₄

theorem comesTo_closeQuietly (s : Stmt σ) :
    ComesTo (closeQuietly s) fun st es _ st' => ∃ closing,
      es = .called s.bottom.id .stmtClose :: (closeRecords closing).map .logged ∧
        s.bottom.close.run st = (closing, st') := by
  intro w
  obtain ⟨es, plain, called, closed⟩ := s.comesTo_close w
  unfold closeQuietly
  rw [Run.bind_apply]
  cases closing : (s.close w).1 with
  | ok _ =>
    rw [closing] at closed
    exact ⟨es, plain, .ok (), called, closed⟩
  | error err =>
    rw [closing] at closed
    refine ⟨es ++ [.logged (notClosed err)], ?_, .error err, by rw [called]; rfl, closed⟩
    refine (Telemetry.plain_emit (.logged (notClosed err)) _).trans ?_
    rw [plain, List.append_assoc]
    rfl

theorem comesTo_dispose (s : Stmt σ) (a : α) :
    ComesTo (do closeQuietly s; World.exchange [] s.contexts; return a) fun st es b st' =>
      b = a ∧ ∃ closing, es = .called s.bottom.id .stmtClose ::
        (closeRecords closing).map .logged ∧ s.bottom.close.run st = (closing, st') :=
  (comesTo_closeQuietly s).exchange fun _ _ _ _ closed => ⟨rfl, closed⟩

variable {direct : Ways σ α} {usage : BaseStmt σ → Ways σ α}

/-- What is done with a statement comes to one use of the statement of the base driver. -/
def UsesOnce (usage : BaseStmt σ → Ways σ α) (call : Stmt σ → Run σ (Answer α × Stmt σ)) : Prop :=
  ∀ s : Stmt σ, ComesTo (call s) fun st es a st' => ∃ (u : Ask σ α) (r : Result α),
    es = [u.effect] ∧ (usage s.bottom).Made u st r st' ∧ a.1 = answer r ∧ a.2.bottom = s.bottom

theorem usesOnce_execStmt (ctx : Context) (args : List Value) :
    UsesOnce (σ := σ) (BaseStmt.executing args) fun s => execStmt s ctx args := by
  intro s
  simp only [execStmt_eq]
  exact (s.comesTo_execAny ctx args).map fun _ _ a _ ⟨u, called, made, same⟩ =>
    ⟨u, a.1, called, made, rfl, same⟩

theorem usesOnce_queryStmt (ctx : Context) (args : List Value) :
    UsesOnce (σ := σ) (BaseStmt.querying args) fun s => queryStmt s ctx args := by
  intro s
  simp only [queryStmt_eq]
  exact (s.comesTo_queryAny ctx args).map fun _ _ a _ ⟨u, called, made, same⟩ =>
    ⟨u, a.1, called, made, rfl, same⟩

/-- After the direct call was skipped the round trip is made, in the state that the skip left. -/
theorem comesTo_throughStmt (c : Conn σ) (ctx : Context) (text : String)
    {call : Stmt σ → Run σ (Answer α × Stmt σ)} (uses : UsesOnce usage call) :
    ComesTo (throughStmt c ctx text call) fun s₁ fs a s₂ => ∀ s es, direct.Skipped s es s₁ →
      RoundTrip direct (c.bottom.preparing text) usage s (es ++ fs) a s₂ := by
  intro w
  obtain ⟨es, plain, p, rfl, prepared⟩ := c.comesTo_prepareAny ctx text w
  unfold throughStmt
  rw [prepare_eq, Run.bind_apply, Run.bind_apply]
  cases answered : (c.prepareAny ctx text w).1 with
  | error err =>
    rw [answered] at prepared
    exact ⟨_, plain, fun s es skipped => .unprepared skipped prepared⟩
  | ok stmt =>
    rw [answered] at prepared
    let v := (c.prepareAny ctx text w).2
    obtain ⟨_, plain', u, r, rfl, used, outcome, same⟩ := uses stmt v
    obtain ⟨_, plain'', kept, closing, rfl, closed⟩ :=
      comesTo_dispose (call stmt v).1.2 (call stmt v).1.1 (call stmt v).2
    rw [same] at closed plain''
    refine ⟨p.effect :: u.effect :: .called stmt.bottom.id .stmtClose ::
      (closeRecords closing).map .logged, plain''.trans ?_, fun s es skipped => ?_⟩
    · rw [plain', plain, List.append_assoc, List.append_assoc]
      rfl
    · have trip : RoundTrip direct (c.bottom.preparing text) usage s _ (answer r) _ :=
        .used skipped prepared used closed
      rw [← outcome, ← kept] at trip
      exact trip

theorem roundTrip_of_asked (c : Conn σ) (ctx : Context) (text : String)
    {call : Stmt σ → Run σ (Answer α × Stmt σ)} (uses : UsesOnce usage call)
    {first : Run σ (Result α)} (asked : ComesTo first direct.Asked)
    {rest : Result α → Run σ (Answer α)} (skip : rest (.error .skip) = throughStmt c ctx text call)
    (other : ∀ r, r ≠ .error .skip → rest r = return answer r) :
    ComesTo (first >>= rest) (RoundTrip direct (c.bottom.preparing text) usage) := by
  intro w
  obtain ⟨es, plain, asked⟩ := asked w
  rw [Run.bind_apply]
  by_cases skips : (first w).1 = .error .skip
  · rw [skips] at asked
    rw [skips, skip]
    obtain ⟨fs, plain', trip⟩ := comesTo_throughStmt c ctx text uses (first w).2
    refine ⟨es ++ fs, ?_, trip w.base es asked.skipped⟩
    rw [plain', plain, List.append_assoc]
  · obtain ⟨a, rfl, made⟩ := asked.exists_made skips
    rw [other _ skips]
    exact ⟨[a.effect], plain, .direct made skips⟩

theorem comesTo_exec (c : Conn σ) (ctx : Context) (text : String) (args : List Value) :
    ComesTo (exec c ctx text args) (RoundTrip (c.bottom.directExec text args)
      (c.bottom.preparing text) (BaseStmt.executing args)) := by
  refine roundTrip_of_asked c ctx text (usesOnce_execStmt ctx args)
    (c.comesTo_directExec ctx text args) rfl fun r final => ?_
  split
  · exact absurd rfl final
  · rfl

theorem comesTo_query (c : Conn σ) (ctx : Context) (text : String) (args : List Value) :
    ComesTo (query c ctx text args) (RoundTrip (c.bottom.directQuery text args)
      (c.bottom.preparing text) (BaseStmt.querying args)) := by
  refine roundTrip_of_asked c ctx text (usesOnce_queryStmt ctx args)
    (c.comesTo_directQuery ctx text args) rfl fun r final => ?_
  split
  · exact absurd rfl final
  · rfl

/-- Whatever connection an exec or a query of the front-end is made on, and whatever the base driver
answers, it is answered directly or makes one round trip through a statement. -/
theorem roundTrips (c : Conn σ) (ctx : Context) (text : String) (args : List Value) :
    ComesTo (exec c ctx text args) (RoundTrip (c.bottom.directExec text args)
      (c.bottom.preparing text) (BaseStmt.executing args)) ∧
    ComesTo (query c ctx text args) (RoundTrip (c.bottom.directQuery text args)
      (c.bottom.preparing text) (BaseStmt.querying args)) :=
  ⟨comesTo_exec c ctx text args, comesTo_query c ctx text args⟩

end FrontEnd
end DriverTelemetry
