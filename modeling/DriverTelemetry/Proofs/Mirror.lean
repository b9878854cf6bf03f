import DriverTelemetry.Proofs.Provenance

/-!
# What the hooks are told of a call

Before a call all hooks see what is to be called and nothing else. After it all of them see that
same call with its two marks and with what the caller is answered: the error where there is one, and
the known figures of an exec.
-/
namespace DriverTelemetry

variable {σ : Type}

namespace Response

theorem error?_verdict (r : Response σ) : Result.error? r.verdict = r.error? := by
  cases r with
  | absent => rfl
  | done r | summary r | rows r | stmt r | tx r => cases r <;> rfl

theorem figures?_verdict (r : Response σ) : r.verdict.toOption.join = r.figures? := by
  cases r with
  | absent => rfl
  | done r | summary r | rows r | stmt r | tx r => cases r <;> rfl

theorem error?_observed (config : Configuration) (text : String) (ctx : Context)
    (r : Response σ) : (r.observed config text ctx).error? = r.error? := by
  cases r with
  | absent | done r | summary r | rows r => rfl
  | stmt r | tx r => cases r <;> rfl

theorem figures?_observed (config : Configuration) (text : String) (ctx : Context)
    (r : Response σ) : (r.observed config text ctx).figures? = r.figures? := by
  cases r <;> rfl

theorem figures?_eq_some {r : Response σ} {s : ExecSummary} :
    r.figures? = some s ↔ r = .summary (.ok s) := by
  constructor
  · intro h
    match r, h with
    | .summary (.ok _), rfl => rfl
  · rintro rfl
    rfl

theorem figures?_ofMethod {α : Type} {call : α → Run σ (Response σ)}
    (h : ∀ m w, (call m w).1.figures? = none) (method : Option α) (w : World σ) :
    (ofMethod method call w).1.figures? = none := by
  cases method with
  | none => rfl
  | some m => exact h m w

end Response

namespace BaseCall

def isExec : BaseCall → Bool
  | .exec _ _ | .execContext _ _ _ | .stmtExec _ | .stmtExecContext _ _ => true
  | _ => false

theorem of_legacy {call made : BaseCall} (h : call.legacy? = some (.ok made)) :
    made.text = call.text ∧ made.arguments = call.arguments.stripped := by
  cases call with
  | prepareContext ctx text =>
    cases h
    exact ⟨rfl, rfl⟩
  | beginTx ctx opts =>
    obtain ⟨_, -, rfl⟩ := Result.of_map_eq_ok (Option.some.inj h)
    exact ⟨rfl, rfl⟩
  | execContext ctx text args | queryContext ctx text args | stmtExecContext ctx args
  | stmtQueryContext ctx args =>
    obtain ⟨values, fits, rfl⟩ := Result.of_map_eq_ok (Option.some.inj h)
    obtain ⟨-, rfl⟩ := NamedValue.toValues_eq_ok.mp fits
    exact ⟨rfl, rfl⟩
  | _ => cases h

end BaseCall

namespace Target

open Response

theorem figures?_conn (c : Conn σ) {call : BaseCall} (h : call.isExec = false) (w : World σ) :
    ((conn c).perform call w).1.1.figures? = none := by
  cases call with
  | exec text args => cases h
  | execContext ctx text args => cases h
  | query text args => exact figures?_ofMethod (fun _ _ => rfl) c.query? w
  | queryContext ctx text args => exact figures?_ofMethod (fun _ _ => rfl) c.queryContext? w
  | prepareContext ctx text => exact figures?_ofMethod (fun _ _ => rfl) c.prepareContext? w
  | beginTx ctx opts => exact figures?_ofMethod (fun _ _ => rfl) c.beginTx? w
  | ping ctx => exact figures?_ofMethod (fun _ _ => rfl) c.ping? w
  | resetSession ctx => exact figures?_ofMethod (fun _ _ => rfl) c.resetSession? w
  | _ => rfl

theorem figures?_stmt (s : Stmt σ) {call : BaseCall} (h : call.isExec = false) (w : World σ) :
    ((stmt s).perform call w).1.1.figures? = none := by
  cases call with
  | stmtExec args => cases h
  | stmtExecContext ctx args => cases h
  | stmtQueryContext ctx args =>
    simp only [perform, Stmt.perform]
    cases s.queryContext? <;> rfl
  | _ => rfl

theorem figures?_tx (t : Tx σ) (call : BaseCall) (w : World σ) :
    ((tx t).perform call w).1.1.figures? = none := by
  cases call <;> rfl

theorem isExec_of_figures {t : Target σ} {call : BaseCall} {w : World σ} {s : ExecSummary}
    (h : (t.perform call w).1.1.figures? = some s) : call.isExec = true := by
  rw [← Bool.not_eq_false]
  intro other
  cases t with
  | conn c =>
    rw [figures?_conn c other w] at h
    cases h
  | stmt st =>
    rw [figures?_stmt st other w] at h
    cases h
  | tx t =>
    rw [figures?_tx t call w] at h
    cases h

theorem bind_figures {t : Target σ} {call : BaseCall} {w : World σ}
    (figure : ExecSummary → Option Int64) (id : Int64) :
    (t.perform call w).1.1.figures?.bind figure = some id ↔
      call.isExec = true ∧ ∃ s, (t.perform call w).1.1 = .summary (.ok s) ∧ figure s = some id := by
  rw [Option.bind_eq_some_iff]
  constructor
  · rintro ⟨s, known, shown⟩
    exact ⟨isExec_of_figures known, s, Response.figures?_eq_some.mp known, shown⟩
  · rintro ⟨-, s, answer, shown⟩
    exact ⟨s, Response.figures?_eq_some.mpr answer, shown⟩

end Target

/-- An event as the hooks see it before the call: all that is known of the call, and nothing of what
will come of it. -/
structure Wrapper.Announces (x : Wrapper σ) (call made : BaseCall) (e : Event) : Prop where
  system : e.system = x.config.system
  operation : e.operation = made.operation
  query : x.text? = none → e.query = call.text
  prepared : ∀ text, x.text? = some text → e.query = text
  args : e.args = if x.inner.accepts call then call.arguments else call.arguments.stripped
  unmarked : e.started = none ∧ e.stopped = none
  uncounted : e.lastInsertId = none ∧ e.rowsAffected = none
  unfailed : e.error = none

/-- An event as the hooks see it after the call: that of before, with its marks and with what the
call was answered. -/
structure Event.Completes (e first : Event) (call : BaseCall) (r : Response σ) : Prop where
  system : e.system = first.system
  operation : e.operation = first.operation
  query : e.query = first.query
  args : e.args = first.args
  marked : e.started.isSome = true ∧ e.stopped.isSome = true
  latency : ∃ time, e.latency = .ok time
  error : e.error = r.error?
  lastInsertId : ∀ id, e.lastInsertId = some id ↔
    call.isExec = true ∧ ∃ s, r = .summary (.ok s) ∧ s.lastInsertId? = .ok id
  rowsAffected : ∀ rows, e.rowsAffected = some rows ↔
    call.isExec = true ∧ ∃ s, r = .summary (.ok s) ∧ s.rowsAffected? = .ok rows

namespace Wrapper

variable {x : Wrapper σ} {call made : BaseCall}

theorem text_made (treated : x.treatment call = .reported made) : made.text = call.text := by
  rcases treatment_reported treated with ⟨-, rfl, -⟩ | ⟨-, fits, -⟩
  · rfl
  · exact (BaseCall.of_legacy fits).1

theorem arguments_made (treated : x.treatment call = .reported made) :
    made.arguments = if x.inner.accepts call then call.arguments else call.arguments.stripped := by
  rcases treatment_reported treated with ⟨accepted, rfl, -⟩ | ⟨declined, fits, -⟩
  · rw [if_pos accepted]
  · rw [if_neg (by rw [declined]; decide)]
    exact (BaseCall.of_legacy fits).2

theorem announces (treated : x.treatment call = .reported made) :
    x.Announces call made (x.event made) := by
  refine ⟨rfl, rfl, fun unprepared => ?_, fun text prepared => ?_, arguments_made treated,
    ⟨rfl, rfl⟩, ⟨rfl, rfl⟩, rfl⟩
  · rw [← text_made treated]
    exact congrArg (Option.getD · made.text) unprepared
  · exact congrArg (Option.getD · made.text) prepared

end Wrapper

namespace Account.Of

variable {a : Account σ} {x : Wrapper σ} {call : BaseCall} {w : World σ}

theorem latency_last (h : a.Of x call w) :
    a.last.latency = .ok (a.answered.telemetry.now + 1 - a.asked.telemetry.now) := by
  have later := h.inside_grows.now_le
  rw [h.last_eq]
  exact if_pos (by omega)

theorem error?_last (h : a.Of x call w) :
    a.last.error = (x.target.perform call w).1.1.error? := by
  rw [h.last_eq, h.outcome, Response.error?_observed, ← Response.error?_verdict]

theorem figures_last (h : a.Of x call w) :
    a.last.lastInsertId =
        (x.target.perform call w).1.1.figures?.bind ExecSummary.lastInsertId ∧
      a.last.rowsAffected =
        (x.target.perform call w).1.1.figures?.bind ExecSummary.rowsAffected := by
  rw [h.last_eq, h.outcome, Response.figures?_observed, ← Response.figures?_verdict]
  exact ⟨rfl, rfl⟩

theorem completes (h : a.Of x call w) :
    a.last.Completes (x.event a.made) call (x.target.perform call w).1.1 := by
  have same := h.last_eq
  obtain ⟨lastInsertId, rowsAffected⟩ := h.figures_last
  refine ⟨?_, ?_, ?_, ?_, ?_, ⟨_, h.latency_last⟩, h.error?_last, fun id => ?_, fun rows => ?_⟩
  · rw [same]
  · rw [same]
  · rw [same]
  · rw [same]
  · rw [same]
    exact ⟨rfl, rfl⟩
  · rw [lastInsertId, Target.bind_figures]
    simp only [ExecSummary.lastInsertId?_eq_ok]
  · rw [rowsAffected, Target.bind_figures]
    simp only [ExecSummary.rowsAffected?_eq_ok]

end Account.Of

namespace Pool

/-- In whichever state a run leaves the handles, the hooks before a call that they are told of all
see the call as it is made and nothing of its outcome; the hooks after it see how long it took and
what the caller gets, which is what the call inside was answered. The query of a statement is that
of the call that created it. -/
theorem run_events (turns : List (Turn σ)) (w : World σ) (n : Nat) (x : Wrapper σ)
    (held : ((fresh w).run turns).targets[n]? = some x.target) (call : BaseCall)
    (told : ¬ x.Unreported call) :
    let p := (fresh w).run turns
    let answer := x.target.perform call p.world
    ∃ (a : Account σ) (bs ms as : List Effect), a.Of x call p.world ∧
      (if x.inner.accepts call then a.made = call else call.legacy? = some (.ok a.made)) ∧
      answer.2.telemetry.effects = p.world.telemetry.effects ++ (bs ++ ms ++ as) ∧
      Effect.notes bs =
        (a.visits.flatMap fun v => v.hook.notes .before v.handed (x.event a.made)) ∧
      Effect.notes as = (x.config.hooks.flatMap fun h => h.notes .after a.exit a.last) ∧
      x.Announces call a.made (x.event a.made) ∧
      (∀ text, x.text? = some text → Firing.textOf n p.firings = some text) ∧
      a.last.Completes (x.event a.made) call answer.1.1 ∧
      (x.inner.perform (a.made.under a.exit) a.asked).1.1 = a.response ∧
      answer.1.1 = a.response.observed x.config call.text a.exit := by
  intro p answer
  have sound : p.Sound := (sound_fresh w).run turns
  obtain ⟨made, treated⟩ := Wrapper.exists_reported told
  obtain ⟨a, account, rfl⟩ := exists_account treated p.world
  obtain ⟨bs, ms, as, added, noted, -, -, noted', -⟩ := account.effects
  refine ⟨a, bs, ms, as, account, Wrapper.made_of_reported treated, added, noted, noted',
    Wrapper.announces treated, fun text prepared => sound.text n x text held prepared,
    account.completes, ?_, ?_⟩
  · rw [account.inside]
  · rw [← Wrapper.text_made treated]
    exact congrArg (·.1.1) account.outcome

/-- A statement that fails: the hooks see the query it was prepared from and the error. -/
theorem run_events_failed :
    let base : Conn Bench := .base (Scripted.conn Bench.onFaults 0 (.standard .none))
    let config : Configuration := ⟨.sqlite, [.record "hook"]⟩
    let plan : Scripted.FaultPlan := ⟨[("stmt.exec", .badConn)], none⟩
    let w : World Bench := ⟨⟨[plan], []⟩, .empty, .empty⟩
    let turns : List (Turn Bench) :=
      [.connected (.observed config base), .call 0 (.prepare "SELECT")]
    let x : Wrapper Bench := .stmt config "SELECT" ⟨some 1, none⟩
      (.base (Scripted.stmt Bench.onFaults 0 (.standard .none)))
    ((fresh w).run turns).targets[1]? = some x.target ∧ ¬ x.Unreported (.stmtExec []) ∧
      ∃ a : Account Bench, a.Of x (.stmtExec []) ((fresh w).run turns).world ∧
        a.last.query = "SELECT" ∧ a.last.error = some .badConn := by
  intro base config plan w turns x
  have held : ((fresh w).run turns).targets[1]? = some x.target := rfl
  have told : ¬ x.Unreported (.stmtExec []) := by
    rintro (foreign | _)
    cases foreign
  obtain ⟨a, -, -, -, account, -, -, -, -, announced, -, completed, -, -⟩ :=
    run_events turns w 1 x held (.stmtExec []) told
  refine ⟨held, told, a, account, ?_, ?_⟩
  · rw [completed.query]
    exact announced.prepared _ rfl
  · rw [completed.error]
    rfl

end Pool
end DriverTelemetry
