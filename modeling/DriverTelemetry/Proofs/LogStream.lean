import DriverTelemetry.Cycle
import DriverTelemetry.Proofs.Marks
import DriverTelemetry.Proofs.Told

/-!
# The stream of log records

Of every call that the hooks around a handle are told of, each logging hook that does not exclude
the operation writes one record, in configured order, once the call has come to its end. What the
record says is read off the hook and the event alone, so the other hooks have no part in it, and
nothing but these records stands under the target of the logging hooks.
-/
namespace DriverTelemetry

variable {σ : Type}

theorem optionalField_map {α : Type} (name : String) (value : Option α) (f : α → Field) :
    optionalField name (value.map f) = value.toList.map fun a => (name, f a) := by
  cases value <;> rfl

namespace LogHook

/-- The record of a call that has come to its end. A skip is no failure, a query and a list of
arguments are told also when they are empty, and what is not known is left out. -/
def finishedRecord (h : LogHook) (e : Event) : LogRecord where
  level :=
    match e.error with
    | some err => if err.isSkip then h.level else .error
    | none => h.level
  target := target
  message := "sql operation"
  fields :=
    [("system", .text e.system.name), ("operation", .text e.operation.name),
        ("query", .text e.query)]
      ++ (if h.logArguments then [("arguments", .text e.args.display)] else [])
      ++ (match e.started, e.stopped with
          | some start, some stop =>
            if start ≤ stop then [("latency_us", .int ((stop - start : Nat) : Int))] else []
          | _, _ => [])
      ++ e.lastInsertId.toList.map (fun id => ("lastInsertId", .int id.toInt))
      ++ e.rowsAffected.toList.map (fun rows => ("rowsAffected", .int rows.toInt))
      ++ (e.error.toList.filter fun err => !err.isSkip).map fun err => ("error", .text err.display)

private theorem latency_field (e : Event) :
    optionalField "latency_us" (e.latency.toOption.map fun n => .int n) =
      match e.started, e.stopped with
      | some start, some stop =>
        if start ≤ stop then [("latency_us", .int ((stop - start : Nat) : Int))] else []
      | _, _ => [] := by
  unfold Event.latency
  cases e.started with
  | none => rfl
  | some start =>
    cases e.stopped with
    | none => rfl
    | some stop =>
      dsimp only
      split <;> rfl

private theorem error_field (e : Event) :
    optionalField "error" (e.failure.map fun err => .text err.display) =
      (e.error.toList.filter fun err => !err.isSkip).map
        fun err => ("error", .text err.display) := by
  rw [optionalField_map, Event.failure]
  cases e.error with
  | none => rfl
  | some err => cases skips : err.isSkip <;> simp [Option.filter, skips]

private theorem level_record (h : LogHook) (e : Event) :
    (if e.failure.isSome then Level.error else h.level) =
      match e.error with
      | some err => if err.isSkip then h.level else .error
      | none => h.level := by
  rw [Event.failure]
  cases e.error with
  | none => rfl
  | some err => cases skips : err.isSkip <;> simp [Option.filter, skips]

theorem record_eq (h : LogHook) (e : Event) : h.record e = h.finishedRecord e := by
  have arguments : optionalField "arguments"
      (if h.logArguments then some (.text e.args.display) else none) =
      if h.logArguments then [("arguments", .text e.args.display)] else [] := by
    split <;> rfl
  rw [record, finishedRecord, level_record, fields, arguments, latency_field, error_field,
    optionalField_map, optionalField_map]

end LogHook

def Hook.finishedRecords (e : Event) : Hook → List LogRecord
  | .log h => if h.excludes e.operation then [] else [h.finishedRecord e]
  | _ => []

/-- The record that an effect is, if a logging hook wrote it. -/
def Effect.hookRecord? : Effect → Option LogRecord
  | .logged r => if r.target = LogHook.target then some r else none
  | _ => none

namespace Telemetry

/-- The records under the target of the logging hooks, in the order in which they were written. -/
def hookRecords (t : Telemetry) : List LogRecord := t.effects.filterMap Effect.hookRecord?

theorem hookRecords_of_adds {ws : List Effect} {t t' : Telemetry} (h : Adds ws t t') :
    t'.hookRecords = t.hookRecords ++ ws.filterMap Effect.hookRecord? := by
  refine h.filterMap ?_
  rintro (_ | _ | _ | _ | _) ⟨⟩ <;> rfl

end Telemetry

namespace Hook

theorem hookRecords_writes_before (h : Hook) (ctx : Context) (e : Event) :
    (h.writes .before ctx e).filterMap Effect.hookRecord? = [] := by
  cases h <;> rfl

theorem hookRecords_writes_after (h : Hook) (ctx : Context) (e : Event) :
    (h.writes .after ctx e).filterMap Effect.hookRecord? = h.finishedRecords e := by
  cases h with
  | record name => rfl
  | log hook =>
    rw [writes, finishedRecords, LogHook.record_eq]
    split <;> rfl
  | trace hook => rfl

end Hook

namespace Configuration

theorem hookRecords_before (c : Configuration) (ctx : Context) (e : Event) (t : Telemetry) :
    (c.before ctx e t).2.hookRecords = t.hookRecords := by
  obtain ⟨vs, -, handed⟩ := c.before_visits ctx e t
  have silent : (vs.flatMap fun v => (v.hook.writes .before v.handed e).filterMap
      Effect.hookRecord?) = [] :=
    List.flatMap_eq_nil_iff.mpr fun v _ => v.hook.hookRecords_writes_before v.handed e
  rw [Telemetry.hookRecords_of_adds handed.adds, List.filterMap_flatMap, silent, List.append_nil]

theorem hookRecords_after (c : Configuration) (ctx : Context) (e : Event) (t : Telemetry) :
    (c.after ctx e t).hookRecords = t.hookRecords ++ c.hooks.flatMap (Hook.finishedRecords e) := by
  rw [Telemetry.hookRecords_of_adds (c.adds_after ctx e t), List.filterMap_flatMap]
  exact congrArg _ (List.flatMap_congr fun h _ => h.hookRecords_writes_after ctx e)

end Configuration

theorem Event.effects_fill (f : Filling) (e : Event) (t : Telemetry) :
    (e.fill f t).2.effects = t.effects := by
  obtain ⟨start, stop, id, rows, error⟩ := f
  cases start <;> cases stop <;> rfl

theorem Configuration.hookRecords_cycle (c : Configuration) (ctx : Context) (e : Event)
    (f : Filling) (t : Telemetry) :
    (c.cycle ctx e f t).2.hookRecords = t.hookRecords ++
      c.hooks.flatMap (Hook.finishedRecords (e.fill f (c.before ctx e t).2).1) := by
  have filled : (e.fill f (c.before ctx e t).2).2.hookRecords = t.hookRecords := by
    rw [← c.hookRecords_before ctx e t]
    exact congrArg (List.filterMap Effect.hookRecord?) (Event.effects_fill f e _)
  rw [← filled]
  exact c.hookRecords_after _ _ _

def Account.records (x : Wrapper σ) (a : Account σ) : List LogRecord :=
  x.config.hooks.flatMap (Hook.finishedRecords a.last)

namespace Account.Of

variable {a : Account σ} {x : Wrapper σ} {call : BaseCall} {w : World σ}

theorem hookRecords_asked (h : a.Of x call w) :
    a.asked.telemetry.hookRecords = w.telemetry.hookRecords := by
  rw [h.asked_eq]
  exact x.config.hookRecords_before a.entry (x.event a.made) w.telemetry

theorem hookRecords_perform (h : a.Of x call w) :
    (x.target.perform call w).2.telemetry.hookRecords =
      a.answered.telemetry.hookRecords ++ a.records x := by
  rw [h.telemetry_perform, Telemetry.hookRecords_of_adds (x.adds_settle _ _ _)]
  refine (List.append_nil _).trans ?_
  rw [Account.passed, Configuration.hookRecords_after]
  rfl

end Account.Of

theorem Target.Tells.hookRecords_perform {t : Target σ} {call : BaseCall} {w : World σ}
    {as : List (Wrapper σ × Account σ)} (tells : t.Tells call w as) :
    (t.perform call w).2.telemetry.hookRecords =
      w.telemetry.hookRecords ++ as.flatMap fun (x, a) => a.records x := by
  induction tells with
  | @base t id call w handle =>
    rcases perform_base handle call w with ⟨-, nothing⟩ | ⟨r, b, answered, -⟩
    · simp [nothing]
    · rw [answered]
      exact Telemetry.filterMap_emit _ _ _
  | @untold x call w silent =>
    rcases telemetry_unreported silent w with same | ⟨-, id, closed⟩
    · simp [same]
    · rw [closed]
      exact Telemetry.filterMap_emit _ _ _
  | @told x call w a inside account rest ih =>
    rw [account.inside, account.hookRecords_asked] at ih
    rw [account.hookRecords_perform, ih]
    simp

namespace Pool

theorem Tells.hookRecords_run {p : Pool σ} {turns : List (Turn σ)}
    {as : List (Wrapper σ × Account σ)} (tells : p.Tells turns as)
    (elsewhere : ∀ change, .elsewhere change ∈ turns → ∀ v : World σ,
      (change v).telemetry.hookRecords = v.telemetry.hookRecords) :
    (p.run turns).world.telemetry.hookRecords =
      p.world.telemetry.hookRecords ++ as.flatMap fun (x, a) => a.records x := by
  induction tells with
  | nil p => simp [run]
  | @quiet p turn turns as uncalled rest ih =>
    have later := ih fun change member => elsewhere change (List.mem_cons_of_mem turn member)
    rw [run, later]
    rcases step_uncalled uncalled with still | ⟨change, is_turn, changed⟩
    · rw [still]
    · rw [changed, elsewhere change (is_turn ▸ List.mem_cons_self)]
  | @call p n t call turns told as held tells enters rest ih =>
    have later := ih fun change member => elsewhere change (List.mem_cons_of_mem _ member)
    have first := tells.hookRecords_perform
    rw [run, later, step_call held, List.flatMap_append, ← List.append_assoc]
    exact congrArg (· ++ _) first

/-- The records under the target of the logging hooks are, in any run, those of the calls that the
hooks are told of, in the order in which these come to their ends: for each call one of every
logging hook that does not exclude it, in configured order. Each of them is told by the hook and
the event, and the event by the call, its two marks and its answer. So it is with every cycle of a
call that is only told, whatever is filled into its event. -/
theorem run_logStream (turns : List (Turn σ)) (w : World σ)
    (elsewhere : ∀ change, .elsewhere change ∈ turns → ∀ v : World σ,
      (change v).telemetry.hookRecords = v.telemetry.hookRecords) :
    (∃ as, (fresh w).Tells turns as ∧
      ((fresh w).run turns).world.telemetry.hookRecords =
        w.telemetry.hookRecords ++ (as.flatMap fun (x, a) =>
          x.config.hooks.flatMap (Hook.finishedRecords a.last)) ∧
      ∀ x a, (x, a) ∈ as → ∃ begun ended, begun ≤ ended ∧
        a.last = (((x.event a.made).start begun).stop ended).settle a.response.verdict) ∧
    ∀ (c : Configuration) (ctx : Context) (e : Event) (f : Filling) (t : Telemetry),
      (c.cycle ctx e f t).2.hookRecords = t.hookRecords ++
        c.hooks.flatMap (Hook.finishedRecords (e.fill f (c.before ctx e t).2).1) := by
  refine ⟨?_, Configuration.hookRecords_cycle⟩
  obtain ⟨as, tells⟩ := (sound_fresh w).exists_told turns
  refine ⟨as, tells, tells.hookRecords_run elsewhere, fun x a member => ?_⟩
  obtain ⟨call, v, account⟩ := tells.exists_account member
  exact ⟨_, _, Nat.le_succ_of_le account.inside_grows.now_le, account.event⟩

/-- Of a statement that fails one hook tells the failure as an error and the other one, which
excludes the operation, nothing. -/
theorem run_logStream_failed :
    let base : Conn Bench := .base (Scripted.conn Bench.onFaults 0 (.standard .none))
    let config : Configuration := ⟨.sqlite,
      [.log ⟨.debug, false, []⟩, .record "hook", .log ⟨.warn, true, [.stmtExec]⟩]⟩
    let plan : Scripted.FaultPlan := ⟨[("stmt.exec", .badConn)], none⟩
    let w : World Bench := ⟨⟨[plan], []⟩, .empty, .empty⟩
    let turns : List (Turn Bench) :=
      [.connected (.observed config base), .call 0 (.prepare "SELECT"), .call 1 (.stmtExec [])]
    ∃ as, (fresh w).Tells turns as ∧
      (as.flatMap fun (x, a) => a.records x).map LogRecord.level = [.debug, .warn, .error] := by
  intro base config plan w turns
  have elsewhere : ∀ change, .elsewhere change ∈ turns → ∀ v : World Bench,
      (change v).telemetry.hookRecords = v.telemetry.hookRecords := by
    intro change member
    simp [turns] at member
  obtain ⟨as, tells, stream, -⟩ := (run_logStream turns w elsewhere).1
  have levels : ((fresh w).run turns).world.telemetry.hookRecords.map LogRecord.level =
      [.debug, .warn, .error] := by
    decide +kernel
  exact ⟨as, tells, (congrArg (List.map LogRecord.level) stream).symm.trans levels⟩

end Pool
end DriverTelemetry
