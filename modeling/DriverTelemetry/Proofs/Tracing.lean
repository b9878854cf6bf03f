import DriverTelemetry.Cycle
import DriverTelemetry.Proofs.OwnSpans

/-!
# The spans of one cycle

A context holds one active span. A tracing hook that follows another one therefore displaces the
span of that one, which ends there and then and never learns of an outcome; and the first tracing
hook after the call settles and ends the span that is active, which is that of the last. So a cycle
leaves a chain of spans, each the parent of the next, of which only the last has the outcome, and
every hook has its own outcome in its own span just where at most one hook traces the operation.
-/
namespace DriverTelemetry

namespace TraceHook

/-- The span of a call that has learnt of its outcome. -/
def finishedSpan (k : TraceHook) (parent : Option SpanId) (e : Event) : Span where
  origin := .tracer k.scope
  kind := .client
  name := "SQL " ++ e.operation.name
  parent := parent
  attributes :=
    [("db.system", .text e.system.attributeName), ("db.operation", .text e.operation.name)]
      ++ (if e.query = "" then [] else [("db.statement", .text e.query)])
      ++ (if k.logArguments = true ∧ e.args.isEmpty = false
          then [("db.arguments", .text e.args.display)] else [])
      ++ e.rowsAffected.toList.map (fun rows => ("db.rows_affected", .int rows.toInt))
      ++ e.lastInsertId.toList.map (fun id => ("db.last_insert_id", .int id.toInt))
  events := e.failure.toList.map fun err => ⟨"exception", [("exception.message", err.display)]⟩
  status :=
    match e.failure with
    | some err => .error err.display
    | none => .ok
  ended := true

@[simp] theorem ended_settle (e : Event) (s : Span) : (settle e s).ended = s.ended := by
  cases rows : e.rowsAffected <;> cases id : e.lastInsertId <;> cases failure : e.failure <;>
    simp [settle, rows, id, failure]

theorem settle_of_ended {s : Span} (ended : s.ended = true) (e : Event) : settle e s = s := by
  cases rows : e.rowsAffected <;> cases id : e.lastInsertId <;> cases failure : e.failure <;>
    simp [settle, rows, id, failure, Span.setAttribute, Span.recordError, Span.setStatus,
      Span.whileOpen_of_ended ended]

theorem attributes_eq (k : TraceHook) (e : Event) : k.attributes e =
    [("db.system", .text e.system.attributeName), ("db.operation", .text e.operation.name)]
      ++ (if e.query = "" then [] else [("db.statement", .text e.query)])
      ++ (if k.logArguments = true ∧ e.args.isEmpty = false
          then [("db.arguments", .text e.args.display)] else []) := by
  have statement : optionalField "db.statement"
      (if e.query = "" then none else some (.text e.query)) =
      if e.query = "" then [] else [("db.statement", .text e.query)] := by
    split <;> rfl
  have arguments : optionalField "db.arguments"
      (if k.logArguments && !e.args.isEmpty then some (.text e.args.display) else none) =
      if k.logArguments = true ∧ e.args.isEmpty = false
        then [("db.arguments", .text e.args.display)] else [] := by
    cases k.logArguments <;> cases e.args.isEmpty <;> rfl
  rw [attributes, statement, arguments]

theorem finish_settle_span (k : TraceHook) (parent : Option SpanId) (e : Event) :
    (settle e (k.span parent e)).finish = k.finishedSpan parent e := by
  rw [finishedSpan, ← attributes_eq]
  cases rows : e.rowsAffected <;> cases id : e.lastInsertId <;> cases failure : e.failure <;>
    simp [settle, rows, id, failure, span, Span.fresh, Span.setAttribute, Span.recordError,
      Span.setStatus, Span.finish, Span.whileOpen, SpanStatus.outranks]

/-- The spans that tracing hooks start in one pass, numbered from the given one on: each is the
parent of the next, and ended when that one displaced it. What became of the last is left open. -/
def chain (e : Event) (last : TraceHook → Option SpanId → Span) :
    Option SpanId → SpanId → List TraceHook → List Span
  | _, _, [] => []
  | parent, _, [k] => [last k parent]
  | parent, id, k :: k' :: ks =>
    (k.span parent e).finish :: chain e last (some id) (id + 1) (k' :: ks)

section

variable (e : Event) (last : TraceHook → Option SpanId → Span) (parent : Option SpanId)
  (id : SpanId) (k : TraceHook) (ks : List TraceHook)

theorem exists_chain_last :
    ∃ k' parent', (chain e last parent id (k :: ks))[ks.length]? = some (last k' parent') := by
  induction ks generalizing k parent id with
  | nil => exact ⟨k, parent, rfl⟩
  | cons k' ks ih => exact ih (some id) (id + 1) k'

theorem modify_chain (change : Span → Span) :
    (chain e last parent id (k :: ks)).modify ks.length change =
      chain e (fun k parent => change (last k parent)) parent id (k :: ks) := by
  induction ks generalizing k parent id with
  | nil => rfl
  | cons k' ks ih =>
    have rest := ih (some id) (id + 1) k'
    exact congrArg ((k.span parent e).finish :: ·) rest

end

theorem release_of_entered {entry ctx : Context} (entered : ctx.span = entry.span)
    (t : Telemetry) : release entry ctx t = t := by
  rw [release, entered]
  cases entry.span <;> simp

theorem release_of_ne {entry ctx : Context} {id : SpanId} (active : ctx.span = some id)
    (other : entry.span ≠ some id) (t : Telemetry) : release entry ctx t = t.finishSpan id := by
  simp [release, active, other]

end TraceHook

namespace Telemetry

theorem isOpen_of_getElem? {t : Telemetry} {id : SpanId} {s : Span}
    (found : t.spans[id]? = some s) (opened : s.ended = false) : t.isOpen id = true := by
  rw [isOpen_iff]
  exact ⟨s, found, opened⟩

theorem finished_of_open {t : Telemetry} {id : SpanId} {s : Span}
    (found : t.spans[id]? = some s) (opened : s.ended = false) :
    (t.finishSpan id).finished = t.finished ++ [id] := by
  rw [finished_finishSpan, if_pos (isOpen_of_getElem? found opened)]

end Telemetry

namespace Configuration

open Hook TraceHook

private theorem modify_append_right {α : Type} (before after : List α) (n : Nat) (f : α → α) :
    (before ++ after).modify (before.length + n) f = before ++ after.modify n f := by
  induction before with
  | nil => simp
  | cons a before ih =>
    rw [List.length_cons, Nat.add_right_comm, List.cons_append, List.modify_succ_cons, ih]
    rfl

variable {entry : Context} {e : Event}

section

variable (entry e)

/-- From an open span of the pass on, every further tracing hook displaces the one before it. -/
theorem beforeFrom_displacing {earlier : List Span} (k : TraceHook) (parent : Option SpanId)
    (hooks : List Hook) (ctx : Context) (t : Telemetry)
    (known : tracers e.operation hooks ≠ [] → ∀ id, entry.span = some id → id < earlier.length)
    (spans : t.spans = earlier ++ [k.span parent e]) (active : ctx.span = some earlier.length) :
    let left := (beforeFrom entry e hooks ctx t).2
    left.spans = earlier ++ chain e (fun k parent => k.span parent e) parent earlier.length
        (k :: tracers e.operation hooks) ∧
      left.finished =
        t.finished ++ List.range' earlier.length (tracers e.operation hooks).length := by
  induction hooks generalizing earlier k parent ctx t with
  | nil => exact ⟨spans, (List.append_nil _).symm⟩
  | cons h hooks ih =>
    rcases idle_or_traces e.operation h with idle | ⟨k', rfl, traced⟩
    · obtain ⟨ctx', t', turn, active', spans', finished'⟩ := before_idle idle entry ctx t
      rw [tracers_of_idle idle] at known ⊢
      have rest := ih k parent ctx' t' known (spans'.trans spans) (active'.trans active)
      rw [finished'] at rest
      rwa [beforeFrom, turn]
    · rw [tracers_of_traces traced] at known ⊢
      have other : entry.span ≠ some earlier.length := fun same =>
        Nat.lt_irrefl _ (known (by simp) _ same)
      -- The span of `k` leaves the context here, and nothing else holds it: so it ends.
      let started := (t.startSpan (k'.span ctx.span e)).2
      have opened : started.spans[earlier.length]? = some (k.span parent e) := by
        simp [started, spans]
      have turn : k'.before entry ctx e t =
          (ctx.withSpan t.spans.length, started.finishSpan earlier.length) := by
        rw [before_of_traces traced, release_of_ne active other]
      have displaced : (started.finishSpan earlier.length).spans =
          (earlier ++ [(k.span parent e).finish]) ++ [k'.span (some earlier.length) e] := by
        have modified := modify_append_right earlier
          [k.span parent e, k'.span (some earlier.length) e] 0 Span.finish
        simpa [started, spans, active] using modified
      have finished : (started.finishSpan earlier.length).finished =
          t.finished ++ [earlier.length] := by
        rw [Telemetry.finished_of_open opened rfl, Telemetry.finished_startSpan]
      have rest := ih k' (some earlier.length) (ctx.withSpan t.spans.length)
        (started.finishSpan earlier.length)
        (fun _ id entered => Nat.lt_of_lt_of_le (known (by simp) id entered) (by simp)) displaced
        (by simp [Context.withSpan, spans])
      rw [beforeFrom, Hook.before, turn]
      refine ⟨rest.1.trans ?_, rest.2.trans ?_⟩
      · simp [chain]
      · simp [finished, List.range'_succ]

/-- The first tracing hook of a pass displaces nothing, since the span with which the pass was
entered is held elsewhere. -/
theorem beforeFrom_chain (hooks : List Hook) (ctx : Context) (t : Telemetry)
    (entered : ctx.span = entry.span)
    (known : 2 ≤ (tracers e.operation hooks).length →
      ∀ id, entry.span = some id → id < t.spans.length) :
    let left := (beforeFrom entry e hooks ctx t).2
    left.spans = t.spans ++ chain e (fun k parent => k.span parent e) entry.span t.spans.length
        (tracers e.operation hooks) ∧
      left.finished =
        t.finished ++ List.range' t.spans.length ((tracers e.operation hooks).length - 1) := by
  -- The induction ends at the first tracing hook, from which on each displaces the one before it.
  induction hooks generalizing ctx t with
  | nil => exact ⟨(List.append_nil _).symm, (List.append_nil _).symm⟩
  | cons h hooks ih =>
    rcases idle_or_traces e.operation h with idle | ⟨k, rfl, traced⟩
    · obtain ⟨ctx', t', turn, active, spans, finished⟩ := before_idle idle entry ctx t
      rw [tracers_of_idle idle] at known ⊢
      rw [← spans] at known
      have rest := ih ctx' t' (active.trans entered) known
      rw [spans, finished] at rest
      rwa [beforeFrom, turn]
    · rw [tracers_of_traces traced] at known ⊢
      have turn := before_of_traces traced entry ctx t
      rw [release_of_entered entered] at turn
      rw [beforeFrom, Hook.before, turn]
      have rest := beforeFrom_displacing entry e k ctx.span hooks
        (ctx.withSpan t.spans.length) (t.startSpan (k.span ctx.span e)).2
        (fun others => known (Nat.succ_le_succ (List.length_pos_iff.mpr others)))
        (Telemetry.spans_startSpan t _) rfl
      rw [entered, Telemetry.finished_startSpan] at rest
      rw [entered]
      exact rest

end

theorem before_chain (c : Configuration) (ctx : Context) (e : Event) (t : Telemetry)
    (known : 2 ≤ (tracers e.operation c.hooks).length →
      ∀ id, ctx.span = some id → id < t.spans.length) :
    (c.before ctx e t).2.spans = t.spans ++ chain e (fun k parent => k.span parent e) ctx.span
        t.spans.length (tracers e.operation c.hooks) ∧
      (c.before ctx e t).2.finished =
        t.finished ++ List.range' t.spans.length ((tracers e.operation c.hooks).length - 1) :=
  beforeFrom_chain ctx e c.hooks ctx t rfl known

theorem after_of_open {k : TraceHook} (traced : k.excludes e.operation = false) {ctx : Context}
    {t : Telemetry} {id : SpanId} {s : Span} (active : ctx.span = some id)
    (found : t.spans[id]? = some s) (opened : s.ended = false) :
    (k.after ctx e t).spans = t.spans.modify id (fun s => (settle e s).finish) ∧
      (k.after ctx e t).finished = t.finished ++ [id] := by
  rw [TraceHook.after_of_traces traced active]
  have settled : (t.changeSpan id (settle e)).spans[id]? = some (settle e s) := by simp [found]
  have still_open : (settle e s).ended = false := by rw [ended_settle, opened]
  constructor
  · rw [Telemetry.spans_finishSpan, Telemetry.spans_changeSpan, List.modify_modify_eq]
    rfl
  · rw [Telemetry.finished_of_open settled still_open, Telemetry.finished_changeSpan]

theorem after_of_ended {k : TraceHook} (traced : k.excludes e.operation = false) {ctx : Context}
    {t : Telemetry} {id : SpanId} {s : Span} (active : ctx.span = some id)
    (found : t.spans[id]? = some s) (ended : s.ended = true) :
    (k.after ctx e t).spans = t.spans ∧ (k.after ctx e t).finished = t.finished := by
  rw [TraceHook.after_of_traces traced active]
  have unchanged : t.spans.modify id (settle e) = t.spans := by
    refine Telemetry.modify_eq_self fun s' same => ?_
    obtain rfl := Option.some.inj (found.symm.trans same)
    exact settle_of_ended ended e
  have closed : (t.changeSpan id (settle e)).isOpen id = false := by
    rw [← Bool.not_eq_true, Telemetry.isOpen_iff, Telemetry.spans_changeSpan, unchanged]
    simp [found, ended]
  rw [Telemetry.finishSpan, closed, if_neg Bool.false_ne_true]
  exact ⟨unchanged, rfl⟩

theorem foldl_after_still (hooks : List Hook) (ctx : Context) (t : Telemetry)
    (still : tracers e.operation hooks = [] ∨
      ∃ id s, ctx.span = some id ∧ t.spans[id]? = some s ∧ s.ended = true) :
    let left := hooks.foldl (fun t h => h.after ctx e t) t
    left.spans = t.spans ∧ left.finished = t.finished := by
  induction hooks generalizing t with
  | nil => exact ⟨rfl, rfl⟩
  | cons h hooks ih =>
    have turn : (h.after ctx e t).spans = t.spans ∧ (h.after ctx e t).finished = t.finished := by
      rcases idle_or_traces e.operation h with idle | ⟨k, rfl, traced⟩
      · exact after_idle idle ctx t
      · rw [tracers_of_traces traced] at still
        obtain ⟨id, s, active, found, ended⟩ := still.resolve_left (List.cons_ne_nil _ _)
        exact after_of_ended traced active found ended
    have later : tracers e.operation hooks = [] ∨
        ∃ id s, ctx.span = some id ∧ (h.after ctx e t).spans[id]? = some s ∧ s.ended = true := by
      rw [turn.1]
      exact still.imp_left tracers_tail
    obtain ⟨spans, finished⟩ := ih (h.after ctx e t) later
    exact ⟨spans.trans turn.1, finished.trans turn.2⟩

/-- Where some hook traces the operation, the pass after a call settles and ends the active span,
once. -/
theorem foldl_after_settles (hooks : List Hook) (ctx : Context) (t : Telemetry) {id : SpanId}
    {s : Span} (traced : tracers e.operation hooks ≠ []) (active : ctx.span = some id)
    (found : t.spans[id]? = some s) (opened : s.ended = false) :
    let left := hooks.foldl (fun t h => h.after ctx e t) t
    left.spans = t.spans.modify id (fun s => (settle e s).finish) ∧
      left.finished = t.finished ++ [id] := by
  induction hooks generalizing t with
  | nil => exact absurd rfl traced
  | cons h hooks ih =>
    rcases idle_or_traces e.operation h with idle | ⟨k, rfl, traces⟩
    · obtain ⟨spans, finished⟩ := after_idle idle ctx t
      rw [tracers_of_idle idle] at traced
      rw [List.foldl_cons, ← spans, ← finished]
      exact ih (h.after ctx e t) traced (spans ▸ found)
    · obtain ⟨spans, finished⟩ := after_of_open traces active found opened
      have ended : ((k.after ctx e t).spans)[id]? = some (settle e s).finish := by
        rw [spans]
        simp [found]
      obtain ⟨spans', finished'⟩ := foldl_after_still (e := e) hooks ctx (k.after ctx e t)
        (.inr ⟨id, _, active, ended, Span.ended_finish _⟩)
      exact ⟨spans'.trans spans, finished'.trans finished⟩

/-- Of the spans of a pass before a call, the pass after it settles the last. -/
theorem foldl_after_chain {earlier : List Span} {announced : Event} {parent : Option SpanId}
    {k : TraceHook} {ks : List TraceHook} (hooks : List Hook) (ctx : Context) (t : Telemetry)
    (traced : tracers e.operation hooks ≠ [])
    (active : ctx.span = some (earlier.length + ks.length))
    (spans : t.spans = earlier ++
      chain announced (fun k parent => k.span parent announced) parent earlier.length (k :: ks)) :
    let left := hooks.foldl (fun t h => h.after ctx e t) t
    left.spans = earlier ++
        chain announced (fun k parent => (settle e (k.span parent announced)).finish) parent
          earlier.length (k :: ks) ∧
      left.finished = t.finished ++ [earlier.length + ks.length] := by
  obtain ⟨k', parent', last⟩ := exists_chain_last announced
    (fun k parent => k.span parent announced) parent earlier.length k ks
  have found : t.spans[earlier.length + ks.length]? = some (k'.span parent' announced) := by
    rw [spans, List.getElem?_append_right (Nat.le_add_right _ _), Nat.add_sub_cancel_left, last]
  obtain ⟨settled, finished⟩ := foldl_after_settles hooks ctx t traced active found rfl
  refine ⟨?_, finished⟩
  rw [settled, spans, modify_append_right, modify_chain]

end Configuration

namespace Event

private theorem exists_fill (f : Filling) (e : Event) (t : Telemetry) :
    ∃ started stopped lastInsertId rowsAffected error, (e.fill f t).1 =
      { e with started, stopped, lastInsertId, rowsAffected, error } := by
  obtain ⟨start, stop, id, rows, error⟩ := f
  cases start <;> cases stop <;> cases id <;> cases rows <;> cases error <;>
    exact ⟨_, _, _, _, _, rfl⟩

@[simp] theorem operation_fill (f : Filling) (e : Event) (t : Telemetry) :
    (e.fill f t).1.operation = e.operation := by
  obtain ⟨started, stopped, id, rows, error, same⟩ := e.exists_fill f t
  rw [same]

theorem span_fill (k : TraceHook) (parent : Option SpanId) (f : Filling) (e : Event)
    (t : Telemetry) : k.span parent (e.fill f t).1 = k.span parent e := by
  obtain ⟨started, stopped, id, rows, error, same⟩ := e.exists_fill f t
  rw [same]
  rfl

theorem spans_fill (f : Filling) (e : Event) (t : Telemetry) :
    (e.fill f t).2.spans = t.spans ∧ (e.fill f t).2.finished = t.finished := by
  obtain ⟨start, stop, id, rows, error⟩ := f
  cases start <;> cases stop <;> exact ⟨rfl, rfl⟩

end Event

/-- A finished span that has the figures of an event, and its failure or success. -/
structure Span.Reports (s : Span) (e : Event) : Prop where
  ended : s.ended = true
  rowsAffected : ∀ rows, e.rowsAffected = some rows →
    ("db.rows_affected", Field.int rows.toInt) ∈ s.attributes
  lastInsertId : ∀ id, e.lastInsertId = some id →
    ("db.last_insert_id", Field.int id.toInt) ∈ s.attributes
  failed : ∀ err, e.error = some err → err.isSkip = false → s.status = .error err.display
  succeeded : (∀ err, e.error = some err → err.isSkip = true) → s.status = .ok

theorem TraceHook.reports_finishedSpan (k : TraceHook) (parent : Option SpanId) (e : Event) :
    (k.finishedSpan parent e).Reports e := by
  refine ⟨rfl, fun rows counted => ?_, fun id known => ?_, fun err failed real => ?_,
    fun none => ?_⟩
  · simp [finishedSpan, counted]
  · simp [finishedSpan, known]
  · simp [finishedSpan, Event.failure, failed, Option.filter, real]
  · have unfailed : e.failure = Option.none := by
      rw [Event.failure, Option.filter_eq_none_iff]
      intro err failed
      simp [none err failed]
    simp [finishedSpan, unfailed]

namespace Configuration

open Hook TraceHook

variable (c : Configuration) (ctx : Context) (e : Event) (f : Filling) (t : Telemetry)

/-- Every tracing hook has its own outcome in its own span: the span that it starts in its turn
before the call ends once in the cycle, not before its turn after the call, and reports the
event. -/
def OwnOutcomes : Prop :=
  ∀ (earlier : List Hook) (k : TraceHook) (later : List Hook),
    c.hooks = earlier ++ .trace k :: later → k.excludes e.operation = false →
    let first := c.before ctx e t
    let told := (e.fill f first.2).1
    let own := (beforeFrom ctx e earlier ctx t).2.spans.length
    let reached := earlier.foldl (fun t h => h.after first.1 told t) (e.fill f first.2).2
    let done := (c.cycle ctx e f t).2
    own ∉ reached.finished.drop t.finished.length ∧
    (done.finished.drop t.finished.length).count own = 1 ∧
    ∃ s, done.spans[own]? = some s ∧ s.Reports told

/-- What the hooks that trace the operation leave in the table of spans. -/
theorem cycle_chain (known : ∀ id, ctx.span = some id → id < t.spans.length) :
    let ks := tracers e.operation c.hooks
    let told := (e.fill f (c.before ctx e t).2).1
    let done := (c.cycle ctx e f t).2
    done.spans = t.spans ++
        chain e (fun k parent => k.finishedSpan parent told) ctx.span t.spans.length ks ∧
      done.finished = t.finished ++ List.range' t.spans.length ks.length := by
  intro ks told done
  obtain ⟨spans, finished⟩ := c.before_chain ctx e t fun _ => known
  obtain ⟨spans', finished'⟩ := Event.spans_fill f e (c.before ctx e t).2
  have active : (c.before ctx e t).1.span = _ := span_beforeFrom ctx e c.hooks ctx t
  have operation : told.operation = e.operation := e.operation_fill f _
  cases traced : tracers e.operation c.hooks with
  | nil =>
    obtain ⟨spans'', finished''⟩ := foldl_after_still (e := told) c.hooks (c.before ctx e t).1
      (e.fill f (c.before ctx e t).2).2 (.inl (operation ▸ traced))
    simp only [traced] at spans finished
    refine ⟨spans''.trans (spans'.trans ?_), finished''.trans (finished'.trans ?_)⟩
    · simpa [ks, traced, chain] using spans
    · simpa [ks, traced] using finished
  | cons k rest =>
    simp only [traced] at spans finished active
    have place : (c.before ctx e t).1.span = some (t.spans.length + rest.length) := by
      simpa using active
    have settled : (fun (k : TraceHook) (parent : Option SpanId) =>
        (settle told (k.span parent e)).finish) = fun k parent => k.finishedSpan parent told := by
      funext k parent
      rw [← finish_settle_span, Event.span_fill]
    obtain ⟨spans'', finished''⟩ := foldl_after_chain (e := told) c.hooks (c.before ctx e t).1
      (e.fill f (c.before ctx e t).2).2 (by simp [operation, traced]) place (spans'.trans spans)
    refine ⟨spans''.trans ?_, finished''.trans ?_⟩
    · simp [ks, traced, settled]
    · rw [finished', finished, List.append_assoc]
      simp [ks, traced, List.range'_concat]

theorem exists_first_tracer {op : Operation} {hooks : List Hook}
    (traced : tracers op hooks ≠ []) :
    ∃ earlier k later, hooks = earlier ++ .trace k :: later ∧ tracers op earlier = [] ∧
      k.excludes op = false := by
  induction hooks with
  | nil => exact absurd rfl traced
  | cons h hooks ih =>
    rcases idle_or_traces op h with idle | ⟨k, rfl, traces⟩
    · rw [tracers_of_idle idle] at traced
      obtain ⟨earlier, k, later, rfl, none, traces⟩ := ih traced
      exact ⟨h :: earlier, k, later, rfl, by rw [tracers_of_idle idle, none], traces⟩
    · exact ⟨[], k, hooks, rfl, rfl, traces⟩

/-- Before the turn of the first tracing hook nothing has ended after the call, and the span that
the hook started has the next free number. -/
theorem first_turn {earlier : List Hook} (none : tracers e.operation earlier = []) :
    let first := c.before ctx e t
    (beforeFrom ctx e earlier ctx t).2.spans.length = t.spans.length ∧
      (earlier.foldl (fun t h => h.after first.1 (e.fill f first.2).1 t)
        (e.fill f first.2).2).finished = first.2.finished := by
  intro first
  have untold : tracers (e.fill f first.2).1.operation earlier = [] := by simp [none]
  have still := foldl_after_still (e := (e.fill f first.2).1) earlier first.1
    (e.fill f first.2).2 (.inl untold)
  exact ⟨by simp [length_beforeFrom, none], still.2.trans (Event.spans_fill f e first.2).2⟩

theorem ownOutcomes_of_single (known : ∀ id, ctx.span = some id → id < t.spans.length)
    (single : (tracers e.operation c.hooks).length ≤ 1) : c.OwnOutcomes ctx e f t := by
  intro earlier k later split traces first told own reached done
  obtain ⟨spans, finished⟩ := c.cycle_chain ctx e f t known
  have before : first.2.finished = _ := (c.before_chain ctx e t fun _ => known).2
  have only : tracers e.operation earlier = [] ∧ tracers e.operation c.hooks = [k] := by
    rw [split, tracers_append, tracers_of_traces traces] at single ⊢
    simp only [List.length_append, List.length_cons] at single
    have none := List.length_eq_zero_iff.mp (show (tracers e.operation earlier).length = 0 by omega)
    have none' := List.length_eq_zero_iff.mp (show (tracers e.operation later).length = 0 by omega)
    simp [none, none']
  rw [only.2] at spans finished before
  obtain ⟨place, nothing⟩ := c.first_turn ctx e f t only.1
  have own_eq : own = t.spans.length := place
  have done_finished : done.finished = t.finished ++ [own] := by rw [own_eq]; exact finished
  have reached_finished : reached.finished = t.finished := by
    rw [show reached.finished = _ from nothing, before]
    exact List.append_nil _
  refine ⟨?_, ?_, k.finishedSpan ctx.span told, ?_, k.reports_finishedSpan _ _⟩
  · simp [reached_finished]
  · simp [done_finished]
  · rw [own_eq, show done.spans = _ from spans, chain, List.getElem?_concat_length]

/-- Of several tracing hooks the first has its span ended before the call is even made. -/
theorem single_of_ownOutcomes (known : ∀ id, ctx.span = some id → id < t.spans.length)
    (own : c.OwnOutcomes ctx e f t) : (tracers e.operation c.hooks).length ≤ 1 := by
  rw [← Nat.not_lt]
  intro several
  have traced : tracers e.operation c.hooks ≠ [] := List.length_pos_iff.mp (by omega)
  obtain ⟨earlier, k, later, split, none, traces⟩ := exists_first_tracer traced
  have before := (c.before_chain ctx e t fun _ => known).2
  obtain ⟨place, nothing⟩ := c.first_turn ctx e f t none
  obtain ⟨unended, -, -⟩ := own earlier k later split traces
  rw [place, nothing, before, List.drop_left] at unended
  exact unended (List.mem_range'.mpr ⟨0, by omega, by simp⟩)

/-- A cycle leaves a chain of ended spans, one for each hook that traces the operation, of which
only the last has the outcome. So every tracing hook has its own outcome just where there is at
most one. -/
theorem cycle_tracing (known : ∀ id, ctx.span = some id → id < t.spans.length) :
    let ks := tracers e.operation c.hooks
    let told := (e.fill f (c.before ctx e t).2).1
    let done := (c.cycle ctx e f t).2
    done.spans = t.spans ++
        chain e (fun k parent => k.finishedSpan parent told) ctx.span t.spans.length ks ∧
      done.finished = t.finished ++ List.range' t.spans.length ks.length ∧
      (c.OwnOutcomes ctx e f t ↔ ks.length ≤ 1) := by
  intro ks told done
  obtain ⟨spans, finished⟩ := c.cycle_chain ctx e f t known
  exact ⟨spans, finished, c.single_of_ownOutcomes ctx e f t known,
    c.ownOutcomes_of_single ctx e f t known⟩

/-- One tracing hook, entered with a span of the caller. -/
theorem cycle_tracing_single :
    let c : Configuration := ⟨.sqlite, [.record "hook", .trace ⟨"scope", false, []⟩]⟩
    let f : Filling := ⟨true, true, some 7, some 2, none⟩
    let caller := Telemetry.empty.callerContext none true
    (∀ id, caller.1.span = some id → id < caller.2.spans.length) ∧
      c.OwnOutcomes caller.1 (c.event .connExec) f caller.2 := by
  intro c f caller
  have known : ∀ id, caller.1.span = some id → id < caller.2.spans.length := by
    rintro id ⟨⟩
    decide
  exact ⟨known, (c.cycle_tracing caller.1 (c.event .connExec) f caller.2 known).2.2.mpr (by decide)⟩

/-- Of two tracing hooks the first never learns of the outcome. -/
theorem not_ownOutcomes_two :
    let c : Configuration :=
      ⟨.unknown, [.trace ⟨"oracle", false, []⟩, .trace ⟨"oracle", false, []⟩]⟩
    let f : Filling := ⟨true, true, some 7, some 2, none⟩
    ¬ c.OwnOutcomes .empty (c.event .connExec) f .empty := by
  intro c f own
  obtain ⟨unended, -, -⟩ := own [] ⟨"oracle", false, []⟩ [.trace ⟨"oracle", false, []⟩] rfl rfl
  exact unended (by decide)

end Configuration
end DriverTelemetry
