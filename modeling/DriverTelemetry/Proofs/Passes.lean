import Mathlib.Data.List.Basic
import DriverTelemetry.Driver.World

/-!
# What a pass over the hooks leaves behind

A pass only adds to the effects. Beside the starts and ends of spans it adds what the hooks write,
in configured order, so a reading of the effects that makes nothing of spans is told by what each
hook writes. Before a call each hook is handed the context that the hook before it returned; after
the call all of them are handed the same one.
-/
namespace DriverTelemetry

/-- Whether an effect is no more than the start or the end of a span. -/
def Effect.marksSpan : Effect → Bool
  | .started _ | .finished _ => true
  | _ => false

theorem Effect.filterMap_filter_marksSpan {β : Type} {read : Effect → Option β}
    (blind : ∀ e, e.marksSpan = true → read e = none) (es : List Effect) :
    (es.filter fun e => !e.marksSpan).filterMap read = es.filterMap read := by
  rw [List.filterMap_filter]
  refine List.filterMap_congr fun e _ => ?_
  cases marks : e.marksSpan with
  | true => exact (blind e marks).symm
  | false => rfl

namespace Telemetry

/-- What hooks do to a telemetry: these effects are added, beside the starts and ends of spans, and
the clock does not go back. -/
structure Adds (ws : List Effect) (t t' : Telemetry) : Prop where
  effects : ∃ es, t'.effects = t.effects ++ es ∧ (es.filter fun e => !e.marksSpan) = ws
  now_le : t.now ≤ t'.now

section

variable {ws ws' : List Effect} {t t' t'' : Telemetry}

theorem Adds.refl (t : Telemetry) : Adds [] t t := ⟨⟨[], by simp⟩, Nat.le_refl _⟩

theorem Adds.trans (h : Adds ws t t') (h' : Adds ws' t' t'') : Adds (ws ++ ws') t t'' := by
  obtain ⟨es, he, hw⟩ := h.effects
  obtain ⟨fs, hf, hw'⟩ := h'.effects
  refine ⟨⟨es ++ fs, ?_, ?_⟩, Nat.le_trans h.now_le h'.now_le⟩
  · rw [hf, he, List.append_assoc]
  · rw [List.filter_append, hw, hw']

/-- Where nothing is added, what the step after it adds is what both add. -/
theorem Adds.then (h : Adds [] t t') (h' : Adds ws t' t'') : Adds ws t t'' := by
  simpa using h.trans h'

theorem Adds.filterMap {β : Type} {read : Effect → Option β} (h : Adds ws t t')
    (blind : ∀ e, e.marksSpan = true → read e = none) :
    t'.effects.filterMap read = t.effects.filterMap read ++ ws.filterMap read := by
  obtain ⟨es, he, hw⟩ := h.effects
  rw [he, List.filterMap_append, ← hw, Effect.filterMap_filter_marksSpan blind]

theorem Adds.notes_calls (h : Adds ws t t') : ∃ es, t'.effects = t.effects ++ es ∧
    Effect.notes es = Effect.notes ws ∧ Effect.calls es = Effect.calls ws := by
  obtain ⟨es, he, hw⟩ := h.effects
  refine ⟨es, he, ?_, ?_⟩
  · rw [← hw, Effect.notes, Effect.notes, Effect.filterMap_filter_marksSpan]
    rintro (_ | _ | _ | _ | _) ⟨⟩ <;> rfl
  · rw [← hw, Effect.calls, Effect.calls, Effect.filterMap_filter_marksSpan]
    rintro (_ | _ | _ | _ | _) ⟨⟩ <;> rfl

end

theorem calls_logged (records : List LogRecord) :
    Effect.calls (records.map .logged) = [] := by
  simp [Effect.calls, Effect.call?, List.filterMap_map]

theorem adds_emit {e : Effect} (own : e.marksSpan = false) (t : Telemetry) :
    Adds [e] t (t.emit e) :=
  ⟨⟨[e], rfl, by simp [own]⟩, Nat.le_refl _⟩

theorem adds_mark {e : Effect} (marks : e.marksSpan = true) (t : Telemetry) :
    Adds [] t (t.emit e) :=
  ⟨⟨[e], rfl, by simp [marks]⟩, Nat.le_refl _⟩

theorem adds_tick (t : Telemetry) : Adds [] t t.tick.2 :=
  ⟨⟨[], by simp [tick]⟩, Nat.le_succ _⟩

theorem adds_changeSpan (id : SpanId) (change : Span → Span) (t : Telemetry) :
    Adds [] t (t.changeSpan id change) :=
  ⟨⟨[], by simp [changeSpan]⟩, Nat.le_refl _⟩

theorem adds_startSpan (s : Span) (t : Telemetry) : Adds [] t (t.startSpan s).2 :=
  ⟨⟨[.started t.spans.length], rfl, rfl⟩, Nat.le_refl _⟩

theorem adds_finishSpan (id : SpanId) (t : Telemetry) : Adds [] t (t.finishSpan id) := by
  unfold finishSpan
  split
  · exact (adds_changeSpan id _ t).then (adds_mark rfl _)
  · exact Adds.refl t

theorem adds_hold (ctxs : List Context) (t : Telemetry) : Adds [] t (t.hold ctxs) :=
  ⟨⟨[], by simp [hold]⟩, Nat.le_refl _⟩

theorem adds_letGo (ctx : Context) (t : Telemetry) : Adds [] t (t.letGo ctx) := by
  obtain ⟨holds, given⟩ := t.unhold_eq ctx
  have kept : Adds [] t (t.unhold ctx) := given ▸ ⟨⟨[], by simp⟩, Nat.le_refl _⟩
  rcases t.letGo_cases ctx with same | ⟨id, -, -, -, ended⟩
  · rw [same]
    exact kept
  · rw [ended]
    exact kept.then (adds_finishSpan id _)

theorem adds_exchange (kept givenUp : List Context) (t : Telemetry) :
    Adds [] t (t.exchange kept givenUp) := by
  unfold exchange
  refine (adds_hold kept t).then ?_
  generalize t.hold kept = t
  induction givenUp generalizing t with
  | nil => exact .refl t
  | cons ctx rest ih => exact (adds_letGo ctx t).then (ih _)

end Telemetry

theorem TraceHook.adds_release (entry ctx : Context) (t : Telemetry) :
    Telemetry.Adds [] t (release entry ctx t) := by
  unfold release
  split
  · split
    · exact .refl t
    · exact Telemetry.adds_finishSpan _ t
  · exact .refl t

namespace Hook

/-- What a hook adds to the effects in a phase in which it is handed a context and an event. -/
def writes (h : Hook) (phase : Phase) (ctx : Context) (e : Event) : List Effect :=
  match h, phase with
  | .record name, phase => [.noted ⟨name, phase, ctx, e⟩]
  | .log h, .after => if h.excludes e.operation then [] else [.logged (h.record e)]
  | _, _ => []

def notes (h : Hook) (phase : Phase) (ctx : Context) (e : Event) : List Note :=
  match h with
  | .record name => [⟨name, phase, ctx, e⟩]
  | _ => []

theorem notes_writes (h : Hook) (phase : Phase) (ctx : Context) (e : Event) :
    Effect.notes (h.writes phase ctx e) = h.notes phase ctx e := by
  cases h with
  | record name => rfl
  | log hook =>
    cases phase with
    | before => rfl
    | after =>
      dsimp only [writes]
      split <;> rfl
  | trace hook => cases phase <;> rfl

theorem calls_writes (h : Hook) (phase : Phase) (ctx : Context) (e : Event) :
    Effect.calls (h.writes phase ctx e) = [] := by
  cases h with
  | record name => rfl
  | log hook =>
    cases phase with
    | before => rfl
    | after =>
      dsimp only [writes]
      split <;> rfl
  | trace hook => cases phase <;> rfl

open Telemetry (Adds)

theorem adds_before (h : Hook) (entry ctx : Context) (e : Event) (t : Telemetry) :
    Adds (h.writes .before ctx e) t (h.before entry ctx e t).2 := by
  cases h with
  | record name =>
    have noted := Telemetry.adds_emit (e := .noted ⟨name, .before, ctx, e⟩) rfl t
    exact ⟨noted.effects, noted.now_le⟩
  | log hook => exact Adds.refl t
  | trace hook =>
    simp only [before, TraceHook.before, writes]
    split
    · exact Adds.refl t
    · exact (Telemetry.adds_startSpan _ t).then (TraceHook.adds_release entry ctx _)

theorem adds_after (h : Hook) (ctx : Context) (e : Event) (t : Telemetry) :
    Adds (h.writes .after ctx e) t (h.after ctx e t) := by
  cases h with
  | record name => exact Telemetry.adds_emit (e := .noted ⟨name, .after, ctx, e⟩) rfl t
  | log hook =>
    simp only [after, LogHook.after, writes]
    split
    · exact Adds.refl t
    · exact Telemetry.adds_emit (e := .logged (hook.record e)) rfl t
  | trace hook =>
    simp only [after, TraceHook.after, writes]
    split
    · exact Adds.refl t
    · split
      · exact (Telemetry.adds_changeSpan _ _ t).then (Telemetry.adds_finishSpan _ _)
      · exact Adds.refl t

end Hook

/-- The turn of one hook in a pass before a call. -/
structure Visit where
  hook : Hook
  handed : Context
  returned : Context

/-- A pass before a call, hook by hook: the first is handed the context on the left, every other one
what the one before it returned, and what the last returned stands on the right. The pass as a
whole was entered with `entry`. -/
inductive Visit.HandOn (entry : Context) (e : Event) :
    Context → Telemetry → List Visit → Context → Telemetry → Prop where
  | nil (ctx : Context) (t : Telemetry) : HandOn entry e ctx t [] ctx t
  | cons {h : Hook} {ctx returned exit : Context} {t t' last : Telemetry} {vs : List Visit}
      (turn : h.before entry ctx e t = (returned, t'))
      (rest : HandOn entry e returned t' vs exit last) :
      HandOn entry e ctx t (⟨h, ctx, returned⟩ :: vs) exit last

theorem Visit.HandOn.adds {entry : Context} {e : Event} {ctx exit : Context} {t last : Telemetry}
    {vs : List Visit} (h : HandOn entry e ctx t vs exit last) :
    Telemetry.Adds (vs.flatMap fun v => v.hook.writes .before v.handed e) t last := by
  induction h with
  | nil ctx t => exact .refl t
  | @cons h ctx returned exit t t' last vs turn rest ih =>
    have first := h.adds_before entry ctx e t
    rw [turn] at first
    exact first.trans ih

namespace Configuration

open Telemetry (Adds)

theorem beforeFrom_visits (entry : Context) (e : Event) (hooks : List Hook) (ctx : Context)
    (t : Telemetry) :
    ∃ vs : List Visit, vs.map Visit.hook = hooks ∧
      Visit.HandOn entry e ctx t vs (beforeFrom entry e hooks ctx t).1
        (beforeFrom entry e hooks ctx t).2 := by
  induction hooks generalizing ctx t with
  | nil => exact ⟨[], rfl, .nil ctx t⟩
  | cons h hooks ih =>
    obtain ⟨vs, hv, handed⟩ := ih (h.before entry ctx e t).1 (h.before entry ctx e t).2
    exact ⟨⟨h, ctx, (h.before entry ctx e t).1⟩ :: vs, by simp [hv], .cons rfl handed⟩

theorem eq_beforeFrom {entry : Context} {e : Event} {ctx exit : Context} {t last : Telemetry}
    {vs : List Visit} (h : Visit.HandOn entry e ctx t vs exit last) :
    beforeFrom entry e (vs.map Visit.hook) ctx t = (exit, last) := by
  induction h with
  | nil ctx t => rfl
  | cons turn rest ih =>
    rw [List.map_cons, beforeFrom, turn]
    exact ih

theorem before_visits (c : Configuration) (entry : Context) (e : Event) (t : Telemetry) :
    ∃ vs : List Visit, vs.map Visit.hook = c.hooks ∧
      Visit.HandOn entry e entry t vs (c.before entry e t).1 (c.before entry e t).2 :=
  beforeFrom_visits entry e c.hooks entry t

theorem adds_after (c : Configuration) (ctx : Context) (e : Event) (t : Telemetry) :
    Adds (c.hooks.flatMap fun h => h.writes .after ctx e) t (c.after ctx e t) := by
  unfold after
  induction c.hooks generalizing t with
  | nil => exact Adds.refl t
  | cons h hooks ih =>
    simp only [List.foldl_cons, List.flatMap_cons]
    exact (h.adds_after ctx e t).trans (ih _)

/-- What the hooks note in a pass before a call, which makes no base call. -/
theorem notes_calls_before {entry : Context} {e : Event} {ctx exit : Context} {t last : Telemetry}
    {vs : List Visit} (h : Visit.HandOn entry e ctx t vs exit last) :
    ∃ es, last.effects = t.effects ++ es ∧
      Effect.notes es = (vs.flatMap fun v => v.hook.notes .before v.handed e) ∧
      Effect.calls es = [] := by
  obtain ⟨es, he, notes, calls⟩ := h.adds.notes_calls
  refine ⟨es, he, notes.trans ?_, calls.trans ?_⟩
  · rw [Effect.notes, List.filterMap_flatMap]
    exact List.flatMap_congr fun v _ => v.hook.notes_writes .before v.handed e
  · rw [Effect.calls, List.filterMap_flatMap]
    exact List.flatMap_eq_nil_iff.mpr fun v _ => v.hook.calls_writes .before v.handed e

theorem notes_calls_after (c : Configuration) (ctx : Context) (e : Event) (t : Telemetry) :
    ∃ es, (c.after ctx e t).effects = t.effects ++ es ∧
      Effect.notes es = (c.hooks.flatMap fun h => h.notes .after ctx e) ∧
      Effect.calls es = [] := by
  obtain ⟨es, he, notes, calls⟩ := (c.adds_after ctx e t).notes_calls
  refine ⟨es, he, notes.trans ?_, calls.trans ?_⟩
  · rw [Effect.notes, List.filterMap_flatMap]
    exact List.flatMap_congr fun h _ => h.notes_writes .after ctx e
  · rw [Effect.calls, List.filterMap_flatMap]
    exact List.flatMap_eq_nil_iff.mpr fun h _ => h.calls_writes .after ctx e

end Configuration
end DriverTelemetry
