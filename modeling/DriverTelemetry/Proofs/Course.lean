import DriverTelemetry.Proofs.Observation
import DriverTelemetry.Proofs.Passes

/-!
# The course of a call

A call on the handle of a base driver is one base call, or nothing where the driver does not offer
it. A reported call on an observed handle is a pass over the hooks, one call inside, and another
pass; its account keeps what was handed on between them.
-/
namespace DriverTelemetry

variable {σ : Type}

namespace Telemetry

/-- Effects are only added, and the clock does not go back. -/
structure Grows (t t' : Telemetry) : Prop where
  effects : ∃ es, t'.effects = t.effects ++ es
  now_le : t.now ≤ t'.now

theorem Grows.refl (t : Telemetry) : Grows t t := ⟨⟨[], by simp⟩, Nat.le_refl _⟩

theorem Grows.trans {t t' t'' : Telemetry} (h : Grows t t') (h' : Grows t' t'') : Grows t t'' := by
  obtain ⟨es, he⟩ := h.effects
  obtain ⟨fs, hf⟩ := h'.effects
  exact ⟨⟨es ++ fs, by rw [hf, he, List.append_assoc]⟩, Nat.le_trans h.now_le h'.now_le⟩

theorem Adds.grows {ws : List Effect} {t t' : Telemetry} (h : Adds ws t t') : Grows t t' := by
  obtain ⟨es, he, -⟩ := h.effects
  exact ⟨⟨es, he⟩, h.now_le⟩

theorem grows_emit (e : Effect) (t : Telemetry) : Grows t (t.emit e) :=
  ⟨⟨[e], rfl⟩, Nat.le_refl _⟩

end Telemetry

open Telemetry (Grows)

/-- Whatever the result, the response creates no handle but one of a base driver. -/
def Response.Plain {α : Type} (respond : Result α → Response σ) : Prop :=
  ∀ r created, (respond r).target? = some created → created.baseId?.isSome = true

namespace Response

theorem plain_done : Plain (σ := σ) .done := nofun

theorem plain_summary : Plain (σ := σ) .summary := nofun

theorem plain_rows : Plain (σ := σ) .rows := nofun

theorem plain_stmt : Plain (σ := σ) fun r => .stmt (r.map .base) := by
  intro r created h
  cases r with
  | error err => cases h
  | ok s =>
    cases h
    rfl

theorem plain_tx : Plain (σ := σ) fun r => .tx (r.map .base) := by
  intro r created h
  cases r with
  | error err => cases h
  | ok t =>
    cases h
    rfl

end Response

namespace Target

open Response

/-- The call is answered by the base driver, and what it creates is a handle of that driver. -/
def AnsweredBy (id : BaseId) (t : Target σ) (call : BaseCall) (w : World σ) : Prop :=
  ∃ r b, t.perform call w =
      ((r, t), { w with base := b, telemetry := w.telemetry.emit (.called id call) }) ∧
    ∀ created, r.target? = some created → created.baseId?.isSome = true

def Declines (t : Target σ) (call : BaseCall) (w : World σ) : Prop :=
  t.accepts call = false ∧ t.perform call w = ((.absent, t), w)

theorem answeredBy_of_ask {α : Type} {id : BaseId} {t : Target σ} {call : BaseCall} {m : Call σ α}
    {respond : Result α → Response σ} (plain : Plain respond)
    (h : t.perform call = do
      let r ← World.ask id call m
      return (respond r, t)) (w : World σ) : AnsweredBy id t call w := by
  refine ⟨respond (m.run w.base).1, (m.run w.base).2, ?_, plain _⟩
  rw [h]
  rfl

theorem perform_baseConn (c : BaseConn σ) (call : BaseCall) (w : World σ) :
    (conn (.base c)).Declines call w ∨ AnsweredBy c.id (conn (.base c)) call w := by
  obtain ⟨id, prepare, close, begin, exec, execContext, query, queryContext, prepareContext,
    beginTx, ping, resetSession⟩ := c
  cases call with
  | prepare text => exact .inr (answeredBy_of_ask plain_stmt rfl w)
  | close => exact .inr (answeredBy_of_ask plain_done rfl w)
  | begin => exact .inr (answeredBy_of_ask plain_tx rfl w)
  | exec text args =>
    cases exec with
    | none => exact .inl ⟨rfl, rfl⟩
    | some m => exact .inr (answeredBy_of_ask plain_summary rfl w)
  | execContext ctx text args =>
    cases execContext with
    | none => exact .inl ⟨rfl, rfl⟩
    | some m => exact .inr (answeredBy_of_ask plain_summary rfl w)
  | query text args =>
    cases query with
    | none => exact .inl ⟨rfl, rfl⟩
    | some m => exact .inr (answeredBy_of_ask plain_rows rfl w)
  | queryContext ctx text args =>
    cases queryContext with
    | none => exact .inl ⟨rfl, rfl⟩
    | some m => exact .inr (answeredBy_of_ask plain_rows rfl w)
  | prepareContext ctx text =>
    cases prepareContext with
    | none => exact .inl ⟨rfl, rfl⟩
    | some m => exact .inr (answeredBy_of_ask plain_stmt rfl w)
  | beginTx ctx opts =>
    cases beginTx with
    | none => exact .inl ⟨rfl, rfl⟩
    | some m => exact .inr (answeredBy_of_ask plain_tx rfl w)
  | ping ctx =>
    cases ping with
    | none => exact .inl ⟨rfl, rfl⟩
    | some m => exact .inr (answeredBy_of_ask plain_done rfl w)
  | resetSession ctx =>
    cases resetSession with
    | none => exact .inl ⟨rfl, rfl⟩
    | some m => exact .inr (answeredBy_of_ask plain_done rfl w)
  | _ => exact .inl ⟨rfl, rfl⟩

theorem perform_baseStmt (s : BaseStmt σ) (call : BaseCall) (w : World σ) :
    (stmt (.base s)).Declines call w ∨ AnsweredBy s.id (stmt (.base s)) call w := by
  obtain ⟨id, numInput, close, exec, query, execContext, queryContext⟩ := s
  cases call with
  | stmtClose => exact .inr (answeredBy_of_ask plain_done rfl w)
  | stmtExec args => exact .inr (answeredBy_of_ask plain_summary rfl w)
  | stmtQuery args => exact .inr (answeredBy_of_ask plain_rows rfl w)
  | stmtExecContext ctx args =>
    cases execContext with
    | none => exact .inl ⟨rfl, rfl⟩
    | some m => exact .inr (answeredBy_of_ask plain_summary rfl w)
  | stmtQueryContext ctx args =>
    cases queryContext with
    | none => exact .inl ⟨rfl, rfl⟩
    | some m => exact .inr (answeredBy_of_ask plain_rows rfl w)
  | _ => exact .inl ⟨rfl, rfl⟩

theorem perform_baseTx (t : BaseTx σ) (call : BaseCall) (w : World σ) :
    (tx (.base t)).Declines call w ∨ AnsweredBy t.id (tx (.base t)) call w := by
  cases call with
  | commit => exact .inr (answeredBy_of_ask plain_done rfl w)
  | rollback => exact .inr (answeredBy_of_ask plain_done rfl w)
  | _ => exact .inl ⟨rfl, rfl⟩

/-- Observers are taken off one by one until a base driver is reached. -/
@[elab_as_elim]
theorem induct {P : Target σ → Prop} (base : ∀ t id, t.baseId? = some id → P t)
    (observed : ∀ x : Wrapper σ, P x.inner → P x.target) (t : Target σ) : P t := by
  cases t with
  | conn c =>
    induction c with
    | base c => exact base (.conn (.base c)) c.id rfl
    | observed config inner ih => exact observed (.conn config inner) ih
  | stmt s =>
    induction s with
    | base s => exact base (.stmt (.base s)) s.id rfl
    | observed config text carried inner ih => exact observed (.stmt config text carried inner) ih
  | tx t =>
    induction t with
    | base t => exact base (.tx (.base t)) t.id rfl
    | observed config carried inner ih => exact observed (.tx config carried inner) ih

theorem perform_base {t : Target σ} {id : BaseId} (h : t.baseId? = some id) (call : BaseCall)
    (w : World σ) : t.Declines call w ∨ AnsweredBy id t call w := by
  match t, h with
  | .conn (.base c), rfl => exact perform_baseConn c call w
  | .stmt (.base s), rfl => exact perform_baseStmt s call w
  | .tx (.base t), rfl => exact perform_baseTx t call w

end Target

theorem Wrapper.adds_settle (x : Wrapper σ) (ctx : Context) (r : Response σ) (t : Telemetry) :
    Telemetry.Adds [] t (x.settle ctx r t) :=
  t.adds_exchange _ _

/-- What was handed on in the course of a reported call. -/
structure Account (σ : Type) where
  /-- The call that was made inside. -/
  made : BaseCall
  entry : Context
  visits : List Visit
  exit : Context
  /-- The world in which the call inside was made. -/
  asked : World σ
  response : Response σ
  /-- The handle inside as the call left it. -/
  left : Target σ
  /-- The world that the call inside left. -/
  answered : World σ
  /-- The event of the pass after the call. -/
  last : Event

/-- What the pass after the call leaves. -/
def Account.passed (a : Account σ) (x : Wrapper σ) : Telemetry :=
  x.config.after a.exit a.last a.answered.telemetry.tick.2

/-- The account is that of this call on the observed handle in this world. -/
structure Account.Of (a : Account σ) (x : Wrapper σ) (call : BaseCall) (w : World σ) : Prop where
  treated : x.treatment call = .reported a.made
  entered : a.entry = x.entry call w.ambient
  hooks : a.visits.map Visit.hook = x.config.hooks
  handOn : ∃ t, Visit.HandOn a.entry (x.event a.made) a.entry w.telemetry a.visits a.exit t ∧
    a.asked = { w with telemetry := t.tick.2 }
  inside : x.inner.perform (a.made.under a.exit) a.asked = ((a.response, a.left), a.answered)
  event : a.last = (((x.event a.made).start a.asked.telemetry.now).stop
    (a.answered.telemetry.now + 1)).settle a.response.verdict
  outcome : x.target.perform call w =
    ((a.response.observed x.config a.made.text a.exit, x.settled a.exit a.left),
      { a.answered with telemetry := x.settle a.exit a.response (a.passed x) })

theorem exists_account {x : Wrapper σ} {call made : BaseCall}
    (treated : x.treatment call = .reported made) (w : World σ) :
    ∃ a : Account σ, a.Of x call w ∧ a.made = made := by
  let entry := x.entry call w.ambient
  let first := x.config.before entry (x.event made) w.telemetry
  let asked : World σ := { w with telemetry := first.2.tick.2 }
  let inside := x.inner.perform (made.under first.1) asked
  let last := (((x.event made).start asked.telemetry.now).stop
    (inside.2.telemetry.now + 1)).settle inside.1.1.verdict
  obtain ⟨vs, hooks, handOn⟩ := x.config.before_visits entry (x.event made) w.telemetry
  refine ⟨⟨made, entry, vs, first.1, asked, inside.1.1, inside.1.2, inside.2, last⟩, ?_, rfl⟩
  refine ⟨treated, rfl, hooks, ⟨first.2, handOn, rfl⟩, rfl, rfl, ?_⟩
  rw [Wrapper.perform_eq, treated]
  rfl

namespace Account.Of

variable {a : Account σ} {x : Wrapper σ} {call : BaseCall} {w : World σ}

theorem exit_eq (h : a.Of x call w) :
    a.exit = (x.config.before a.entry (x.event a.made) w.telemetry).1 := by
  obtain ⟨t, handOn, -⟩ := h.handOn
  rw [Configuration.before, ← h.hooks, Configuration.eq_beforeFrom handOn]

theorem asked_eq (h : a.Of x call w) : a.asked = { w with
    telemetry := (x.config.before a.entry (x.event a.made) w.telemetry).2.tick.2 } := by
  obtain ⟨t, handOn, asked⟩ := h.handOn
  rw [asked, Configuration.before, ← h.hooks, Configuration.eq_beforeFrom handOn]

theorem telemetry_perform (h : a.Of x call w) : (x.target.perform call w).2.telemetry =
    x.settle a.exit a.response (a.passed x) := by
  rw [h.outcome]

theorem last_eq (h : a.Of x call w) : a.last = { x.event a.made with
    started := some a.asked.telemetry.now
    stopped := some (a.answered.telemetry.now + 1)
    lastInsertId := a.response.verdict.toOption.join.bind ExecSummary.lastInsertId
    rowsAffected := a.response.verdict.toOption.join.bind ExecSummary.rowsAffected
    error := Result.error? a.response.verdict } := by
  rw [h.event, Event.settle_eq]
  simp [Event.start, Event.stop, Wrapper.event, Event.withArgs, Event.withQuery,
    Configuration.event, Event.fresh]

theorem grows (h : a.Of x call w) (inside : Grows a.asked.telemetry a.answered.telemetry) :
    Grows w.telemetry (x.target.perform call w).2.telemetry := by
  obtain ⟨t, handOn, asked⟩ := h.handOn
  have first : Grows w.telemetry a.asked.telemetry := by
    rw [asked]
    exact (handOn.adds.trans (Telemetry.adds_tick t)).grows
  have last := (((Telemetry.adds_tick a.answered.telemetry).trans
    (x.config.adds_after a.exit a.last _)).trans (x.adds_settle a.exit a.response _)).grows
  rw [h.telemetry_perform]
  exact (first.trans inside).trans last

end Account.Of

namespace Target

theorem grows_of_base {t : Target σ} {id : BaseId} (h : t.baseId? = some id) (call : BaseCall)
    (w : World σ) : Grows w.telemetry (t.perform call w).2.telemetry := by
  rcases perform_base h call w with ⟨-, nothing⟩ | ⟨r, b, answered, -⟩
  · rw [nothing]
    exact .refl _
  · rw [answered]
    exact Telemetry.grows_emit _ _

theorem grows_of_inner (x : Wrapper σ)
    (inner : ∀ call w, Grows w.telemetry (x.inner.perform call w).2.telemetry)
    (call : BaseCall) (w : World σ) :
    Grows w.telemetry (x.target.perform call w).2.telemetry := by
  cases treated : x.treatment call with
  | silent r =>
    rw [Wrapper.perform_eq, treated]
    exact .refl _
  | passed =>
    rw [Wrapper.perform_eq, treated]
    exact inner call w
  | reported made =>
    obtain ⟨a, h, -⟩ := exists_account treated w
    have inside := inner (a.made.under a.exit) a.asked
    rw [h.inside] at inside
    exact h.grows inside

/-- However many observers a handle has, a call on it only adds to the telemetry. -/
theorem perform_grows (t : Target σ) (call : BaseCall) (w : World σ) :
    Grows w.telemetry (t.perform call w).2.telemetry := by
  induction t using induct generalizing call w with
  | base t id h => exact grows_of_base h call w
  | observed x ih => exact grows_of_inner x ih call w

end Target

namespace Account.Of

variable {a : Account σ} {x : Wrapper σ} {call : BaseCall} {w : World σ}

theorem inside_grows (h : a.Of x call w) : Grows a.asked.telemetry a.answered.telemetry := by
  have inside := x.inner.perform_grows (a.made.under a.exit) a.asked
  rw [h.inside] at inside
  exact inside

theorem effects (h : a.Of x call w) :
    ∃ bs ms as, (x.target.perform call w).2.telemetry.effects =
        w.telemetry.effects ++ (bs ++ ms ++ as) ∧
      Effect.notes bs = (a.visits.flatMap fun v => v.hook.notes .before v.handed (x.event a.made)) ∧
      Effect.calls bs = [] ∧
      a.answered.telemetry.effects = a.asked.telemetry.effects ++ ms ∧
      Effect.notes as = (x.config.hooks.flatMap fun k => k.notes .after a.exit a.last) ∧
      Effect.calls as = [] := by
  obtain ⟨t, handOn, asked⟩ := h.handOn
  obtain ⟨bs, hb, noted, uncalled⟩ := Configuration.notes_calls_before handOn
  obtain ⟨ms, hm⟩ := h.inside_grows.effects
  obtain ⟨as, ha, noted', uncalled'⟩ :=
    x.config.notes_calls_after a.exit a.last a.answered.telemetry.tick.2
  obtain ⟨cs, hc, silent, idle⟩ := (x.adds_settle a.exit a.response (a.passed x)).notes_calls
  refine ⟨bs, ms, as ++ cs, ?_, noted, uncalled, hm, ?_, ?_⟩
  · have same : a.asked.telemetry.effects = w.telemetry.effects ++ bs := by rw [asked, ← hb]; rfl
    rw [h.telemetry_perform]
    calc (x.settle a.exit a.response (a.passed x)).effects
        = (a.answered.telemetry.effects ++ as) ++ cs := hc.trans (congrArg (· ++ cs) ha)
      _ = w.telemetry.effects ++ (bs ++ ms ++ (as ++ cs)) := by rw [hm, same]; simp
  · rw [Effect.notes_append, noted', silent]
    exact List.append_nil _
  · rw [Effect.calls_append, uncalled', idle]
    rfl

theorem answered_base (h : a.Of x call w) {id : BaseId} (base : x.inner.baseId? = some id) :
    a.answered.telemetry.effects =
      a.asked.telemetry.effects ++ [.called id (a.made.under a.exit)] := by
  have accepted := Wrapper.accepts_made h.treated a.exit
  rcases Target.perform_base base (a.made.under a.exit) a.asked with
    ⟨declined, -⟩ | ⟨r, b, answer, -⟩
  · rw [accepted] at declined
    cases declined
  · rw [h.inside] at answer
    obtain ⟨-, answered⟩ := Prod.mk.inj answer
    rw [answered]
    rfl

end Account.Of
end DriverTelemetry
