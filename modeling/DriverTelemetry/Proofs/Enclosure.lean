import DriverTelemetry.Proofs.LogStream
import DriverTelemetry.Proofs.Tracing
import DriverTelemetry.Settings.Section

/-!
# Spans around log records

A span encloses a record that is written after its start and before its end. The pass after a call
goes through the hooks in the order of the pass before it, so a tracing hook ends its span before
the hooks behind it write: it encloses the records of just those logging hooks that stand before
it. The configured tracing hook stands before the configured logging hook, so its span never
encloses the record.
-/
namespace DriverTelemetry

namespace Effect

/-- The starts and ends of spans and the records, in their order. -/
def outline (es : List Effect) : List Effect :=
  es.filter fun e => e.note?.isNone && e.call?.isNone

/-- The record is written at a place where the span has started and has not ended. -/
def Encloses (id : SpanId) (r : LogRecord) (es : List Effect) : Prop :=
  ∃ pre post, es = pre ++ .logged r :: post ∧ .started id ∈ pre ∧ .finished id ∉ pre

theorem outline_append (es fs : List Effect) : outline (es ++ fs) = outline es ++ outline fs :=
  List.filter_append ..

theorem encloses_outline {id : SpanId} {r : LogRecord} {es : List Effect} :
    Encloses id r (outline es) ↔ Encloses id r es := by
  constructor
  · rintro ⟨pre, post, split, start, unended⟩
    obtain ⟨fs, gs, rfl, rfl, rest⟩ := List.filter_eq_append_iff.mp split
    obtain ⟨hs, ks, rfl, others, -, -⟩ := List.filter_eq_cons_iff.mp rest
    refine ⟨fs ++ hs, ks, by simp, ?_, ?_⟩
    · exact List.mem_append_left hs (List.mem_filter.mp start).1
    · intro member
      rcases List.mem_append.mp member with early | late
      · exact unended (List.mem_filter.mpr ⟨early, rfl⟩)
      · exact others _ late rfl
  · rintro ⟨pre, post, rfl, start, unended⟩
    refine ⟨outline pre, outline post, ?_, ?_, ?_⟩
    · rw [outline_append]
      rfl
    · exact List.mem_filter.mpr ⟨start, rfl⟩
    · exact fun member => unended (List.mem_filter.mp member).1

/-- Of the records around the end of a span that starts first, it encloses those before its end. -/
theorem encloses_iff {id : SpanId} {r : LogRecord} (inside behind : List LogRecord) :
    Encloses id r (.started id :: (inside.map .logged ++ .finished id :: behind.map .logged)) ↔
      r ∈ inside := by
  constructor
  · rintro ⟨pre, post, split, start, unended⟩
    obtain ⟨pre, rfl⟩ : ∃ pre', pre = .started id :: pre' := by
      cases pre with
      | nil => cases start
      | cons e pre => exact ⟨pre, by rw [(List.cons.inj split).1]⟩
    rcases List.append_eq_append_iff.mp (List.cons.inj split).2 with
      ⟨past, rfl, rest⟩ | ⟨early, within, rest⟩
    · -- A record behind the end has the end before it.
      cases past with
      | nil => cases rest
      | cons e past =>
        obtain ⟨rfl, -⟩ := List.cons.inj rest
        exact absurd (by simp) unended
    · cases early with
      | nil => cases rest
      | cons e early =>
        obtain ⟨rfl, -⟩ := List.cons.inj rest
        have member : Effect.logged r ∈ inside.map .logged := by simp [within]
        simpa using member
  · intro member
    obtain ⟨rs, rs', rfl⟩ := List.append_of_mem member
    refine ⟨.started id :: rs.map .logged, rs'.map .logged ++ .finished id :: behind.map .logged,
      by simp, List.mem_cons_self, by simp⟩

end Effect

namespace Telemetry

def outline (t : Telemetry) : List Effect := Effect.outline t.effects

section

variable (t : Telemetry)

theorem outline_emit (e : Effect) : (t.emit e).outline = t.outline ++ Effect.outline [e] :=
  Effect.outline_append _ _

theorem outline_startSpan (s : Span) :
    (t.startSpan s).2.outline = t.outline ++ [.started t.spans.length] :=
  Effect.outline_append _ _

theorem outline_finishSpan {id : SpanId} (opened : t.isOpen id = true) :
    (t.finishSpan id).outline = t.outline ++ [.finished id] := by
  rw [finishSpan, if_pos opened]
  exact Effect.outline_append _ _

end

end Telemetry

namespace Hook

variable {h : Hook} {e : Event}

theorem outline_before_idle (idle : h.Idle e.operation) (entry ctx : Context) (t : Telemetry) :
    (h.before entry ctx e t).2.outline = t.outline := by
  cases h with
  | record name => exact (Telemetry.outline_emit t _).trans (List.append_nil _)
  | log hook => rfl
  | trace k => simp [before, TraceHook.before, excludes_of_idle idle]

theorem outline_after_idle (idle : h.Idle e.operation) (ctx : Context) (t : Telemetry) :
    (h.after ctx e t).outline = t.outline ++ (h.finishedRecords e).map .logged := by
  cases h with
  | record name => exact Telemetry.outline_emit t _
  | log hook =>
    simp only [after, LogHook.after, finishedRecords, LogHook.record_eq]
    split
    · exact (List.append_nil _).symm
    · exact Telemetry.outline_emit t _
  | trace k => simp [after, TraceHook.after, excludes_of_idle idle, finishedRecords]

end Hook

namespace Configuration

open Hook

variable {e : Event}

theorem tracers_cons {h : Hook} {hooks : List Hook} (none : tracers e.operation (h :: hooks) = []) :
    h.Idle e.operation ∧ tracers e.operation hooks = [] := by
  rw [← List.singleton_append, tracers_append] at none
  exact List.append_eq_nil_iff.mp none

theorem outline_beforeFrom_idle (entry : Context) (hooks : List Hook)
    (none : tracers e.operation hooks = []) (ctx : Context) (t : Telemetry) :
    (beforeFrom entry e hooks ctx t).2.outline = t.outline := by
  induction hooks generalizing ctx t with
  | nil => rfl
  | cons h hooks ih =>
    obtain ⟨idle, rest⟩ := tracers_cons none
    rw [beforeFrom, ih rest]
    exact h.outline_before_idle idle entry ctx t

theorem outline_foldl_after_idle (hooks : List Hook) (none : tracers e.operation hooks = [])
    (ctx : Context) (t : Telemetry) :
    (hooks.foldl (fun t h => h.after ctx e t) t).outline =
      t.outline ++ (hooks.flatMap (finishedRecords e)).map .logged := by
  induction hooks generalizing t with
  | nil => exact (List.append_nil _).symm
  | cons h hooks ih =>
    obtain ⟨idle, rest⟩ := tracers_cons none
    rw [List.foldl_cons, ih rest, outline_after_idle idle]
    simp

theorem beforeFrom_append (entry : Context) (e : Event) (hooks hooks' : List Hook) (ctx : Context)
    (t : Telemetry) :
    beforeFrom entry e (hooks ++ hooks') ctx t =
      beforeFrom entry e hooks' (beforeFrom entry e hooks ctx t).1
        (beforeFrom entry e hooks ctx t).2 := by
  induction hooks generalizing ctx t with
  | nil => rfl
  | cons h hooks ih => exact ih _ _

section

variable (c : Configuration) (ctx : Context) (f : Filling) (t : Telemetry)
  {earlier later : List Hook} {k : TraceHook}

theorem outline_before (split : c.hooks = earlier ++ .trace k :: later)
    (traces : k.excludes e.operation = false) (untraced : tracers e.operation earlier = [])
    (untraced' : tracers e.operation later = []) :
    (c.before ctx e t).2.outline = t.outline ++ [.started t.spans.length] := by
  let first := beforeFrom ctx e earlier ctx t
  have entered : first.1.span = ctx.span := by
    rw [span_beforeFrom, if_pos untraced]
  have unstarted : first.2.spans.length = t.spans.length := by
    simp [first, length_beforeFrom, untraced]
  have turn := TraceHook.before_of_traces traces ctx first.1 first.2
  rw [TraceHook.release_of_entered entered] at turn
  rw [before, split, beforeFrom_append, beforeFrom, Hook.before, turn,
    outline_beforeFrom_idle ctx later untraced', Telemetry.outline_startSpan, unstarted,
    outline_beforeFrom_idle ctx earlier untraced]

theorem outline_after (split : c.hooks = earlier ++ .trace k :: later)
    (traces : k.excludes e.operation = false) (untraced : tracers e.operation earlier = [])
    (untraced' : tracers e.operation later = []) {id : SpanId} {s : Span}
    (active : ctx.span = some id) (found : t.spans[id]? = some s) (opened : s.ended = false) :
    (c.after ctx e t).outline = t.outline ++
      ((earlier.flatMap (finishedRecords e)).map .logged ++
        .finished id :: (later.flatMap (finishedRecords e)).map .logged) := by
  let reached := earlier.foldl (fun t h => h.after ctx e t) t
  have still : reached.spans = t.spans := (foldl_after_still earlier ctx t (.inl untraced)).1
  have settled : (reached.changeSpan id (TraceHook.settle e)).isOpen id = true := by
    refine Telemetry.isOpen_of_getElem? (s := TraceHook.settle e s) ?_ ?_
    · simp [still, found]
    · rw [TraceHook.ended_settle, opened]
  have turn : (k.after ctx e reached).outline = reached.outline ++ [.finished id] := by
    rw [TraceHook.after_of_traces traces active, Telemetry.outline_finishSpan _ settled]
    rfl
  rw [after, split, List.foldl_append, List.foldl_cons, outline_foldl_after_idle later untraced',
    Hook.after, turn, outline_foldl_after_idle earlier untraced]
  simp

/-- Around one tracing hook a cycle writes the start of the span, the records of the hooks before
that hook, the end of the span, and the records of the hooks behind it. -/
theorem outline_cycle (split : c.hooks = earlier ++ .trace k :: later)
    (traces : k.excludes e.operation = false) (untraced : tracers e.operation earlier = [])
    (untraced' : tracers e.operation later = []) :
    let own := t.spans.length
    let told := (e.fill f (c.before ctx e t).2).1
    (c.cycle ctx e f t).2.outline = t.outline ++
      .started own :: ((earlier.flatMap (finishedRecords told)).map .logged ++
        .finished own :: (later.flatMap (finishedRecords told)).map .logged) := by
  intro own told
  let first := c.before ctx e t
  have operation : told.operation = e.operation := e.operation_fill f first.2
  have single : tracers e.operation c.hooks = [k] := by
    rw [split, tracers_append, tracers_of_traces traces, untraced, untraced']
    rfl
  have active : first.1.span = some own := by
    have last := span_beforeFrom ctx e c.hooks ctx t
    rwa [if_neg (by simp [single]), single] at last
  have found : (e.fill f first.2).2.spans[own]? = some (k.span ctx.span e) := by
    have spans := (c.before_chain ctx e t (by simp [single])).1
    rw [single] at spans
    rw [(Event.spans_fill f e first.2).1, spans]
    exact List.getElem?_concat_length
  rw [← operation] at traces untraced untraced'
  have ends := outline_after c first.1 (e.fill f first.2).2 split traces untraced untraced'
    active found rfl
  have silent : (e.fill f first.2).2.outline = first.2.outline :=
    congrArg Effect.outline (Event.effects_fill f e first.2)
  rw [operation] at traces untraced untraced'
  rw [silent, outline_before c ctx t split traces untraced untraced', List.append_assoc] at ends
  exact ends

theorem exists_effects_cycle : ∃ new, (c.cycle ctx e f t).2.effects = t.effects ++ new := by
  obtain ⟨vs, -, handOn⟩ := c.before_visits ctx e t
  obtain ⟨begun, first, -⟩ := handOn.adds.effects
  have filled := (Event.effects_fill f e (c.before ctx e t).2).trans first
  obtain ⟨ended, last, -⟩ := (c.adds_after (c.before ctx e t).1
    (e.fill f (c.before ctx e t).2).1 (e.fill f (c.before ctx e t).2).2).effects
  refine ⟨begun ++ ended, ?_⟩
  rw [filled, List.append_assoc] at last
  exact last

/-- Of the records of a cycle the span of its one tracing hook encloses those of the hooks that
stand before that hook. -/
theorem exists_encloses_iff (split : c.hooks = earlier ++ .trace k :: later)
    (traces : k.excludes e.operation = false) (untraced : tracers e.operation earlier = [])
    (untraced' : tracers e.operation later = []) :
    let own := t.spans.length
    let told := (e.fill f (c.before ctx e t).2).1
    ∃ new, (c.cycle ctx e f t).2.effects = t.effects ++ new ∧
      Effect.outline new = .started own :: ((earlier.flatMap (finishedRecords told)).map .logged ++
        .finished own :: (later.flatMap (finishedRecords told)).map .logged) ∧
      ∀ r, Effect.Encloses own r new ↔ r ∈ earlier.flatMap (finishedRecords told) := by
  intro own told
  obtain ⟨new, added⟩ := exists_effects_cycle (e := e) c ctx f t
  have written := outline_cycle c ctx f t split traces untraced untraced'
  rw [Telemetry.outline, added, Effect.outline_append] at written
  have written := List.append_cancel_left written
  refine ⟨new, added, written, fun r => ?_⟩
  rw [← Effect.encloses_outline, written, Effect.encloses_iff]

end

end Configuration

namespace Settings.HookSettings

/-- Where both configured hooks watch an operation, the span has ended by the time that the record
is written. -/
theorem cycle_unenclosed (s : HookSettings) (tracing : s.trace.enabled = true)
    (logging : s.log.enabled = true) (system : DatabaseSystem) (ctx : Context) (e : Event)
    (f : Filling) (t : Telemetry) (traced : e.operation ∉ s.trace.exclude)
    (logged : e.operation ∉ s.log.exclude) :
    let c : Configuration := ⟨system, s.hooks⟩
    let own := t.spans.length
    let record := s.log.hook.finishedRecord (e.fill f (c.before ctx e t).2).1
    ∃ new, (c.cycle ctx e f t).2.effects = t.effects ++ new ∧
      Effect.outline new = [.started own, .finished own, .logged record] ∧
      ¬ Effect.Encloses own record new := by
  intro c own record
  have split : c.hooks = [] ++ .trace s.trace.hook :: [.log s.log.hook] := by
    simp [c, hooks, tracing, logging]
  have traces : s.trace.hook.excludes e.operation = false := decide_eq_false traced
  have written : Hook.finishedRecords (e.fill f (c.before ctx e t).2).1 (.log s.log.hook) =
      [record] := by
    simpa [Hook.finishedRecords, record, LogHook.excludes, LogSettings.hook] using logged
  obtain ⟨new, added, outline, encloses⟩ := c.exists_encloses_iff ctx f t split traces rfl rfl
  refine ⟨new, added, ?_, ?_⟩
  · simpa [written] using outline
  · rw [encloses]
    exact List.not_mem_nil

/-- A statement under the standard settings. -/
theorem cycle_unenclosed_standard :
    let c : Configuration := ⟨.sqlite, standard.hooks⟩
    let e := (c.event .connExec).withQuery "DELETE FROM foo"
    let f : Filling := ⟨true, true, none, some 2, none⟩
    let record := standard.log.hook.finishedRecord (e.fill f (c.before .empty e .empty).2).1
    ¬ Effect.Encloses 0 record (c.cycle .empty e f .empty).2.effects := by
  intro c e f record
  obtain ⟨new, added, -, unenclosed⟩ := cycle_unenclosed standard rfl rfl .sqlite .empty e f .empty
    List.not_mem_nil List.not_mem_nil
  rw [added]
  exact unenclosed

/-- Under the standard settings a statement leaves a record that its span does not enclose. -/
theorem not_encloses_connExec :
    let c : Configuration := ⟨.unknown, standard.hooks⟩
    let done := (c.cycle .empty (c.event .connExec) ⟨true, true, none, none, none⟩ .empty).2
    ∃ r, .logged r ∈ done.effects ∧ ¬ Effect.Encloses 0 r done.effects := by
  intro c done
  let told := ((c.event .connExec).start 1).stop 2
  have split : c.hooks = [] ++ .trace standard.trace.hook :: [.log standard.log.hook] := rfl
  obtain ⟨new, added, -, encloses⟩ := c.exists_encloses_iff (e := c.event .connExec) .empty
    ⟨true, true, none, none, none⟩ .empty split rfl rfl rfl
  have effects : done.effects = new := added
  refine ⟨standard.log.hook.finishedRecord told, by decide +kernel, ?_⟩
  rw [effects]
  exact fun within => List.not_mem_nil ((encloses _).mp within)

end Settings.HookSettings
end DriverTelemetry
