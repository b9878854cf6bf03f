import DriverTelemetry.Proofs.LogStream

/-!
# What hooks tell of arguments

A recording hook notes the arguments with each event, a logging hook writes them into a field of its
record and a tracing hook into an attribute of its span, where they are asked to. Whatever else
becomes of the span, the attribute stays. A run is told of here by the reports that it adds: if they
hold of the event of each call inside, they hold of all that the hooks tell.
-/
namespace DriverTelemetry

variable {σ α β : Type}

/-- What a hook tells of the arguments of a call: the name that it gives for the operation, and how
the arguments read. -/
structure ArgumentReport where
  operation : String
  text : String

namespace ArgumentReport

def ofEvent (e : Event) : ArgumentReport := ⟨e.operation.name, e.args.display⟩

theorem ofEvent_ended (e : Event) (begun ended : Nat) (v : Verdict) :
    ofEvent (((e.start begun).stop ended).settle v) = ofEvent e := by
  rw [Event.settle_eq]
  rfl

def textOf? : Field → Option String
  | .text s => some s
  | .int _ => none

/-- The report that stands in fields under these two names, if both are there. -/
def ofFields? (operation arguments : String) (fields : List (String × Field)) :
    Option ArgumentReport := do
  let op ← (fields.lookup operation).bind textOf?
  let text ← (fields.lookup arguments).bind textOf?
  return ⟨op, text⟩

def ofRecord? (r : LogRecord) : Option ArgumentReport :=
  if r.target = LogHook.target then ofFields? "operation" "arguments" r.fields else none

def ofSpan? (s : Span) : Option ArgumentReport :=
  ofFields? "db.operation" "db.arguments" s.attributes

/-- What an effect tells by itself; a span that is started tells in its attributes. -/
def ofEffect? : Effect → Option ArgumentReport
  | .noted n => some (ofEvent n.event)
  | .logged r => ofRecord? r
  | _ => none

theorem lookup_single (name other : String) (field : Field) :
    [(name, field)].lookup other = if other == name then some field else none := by
  rw [List.lookup_cons]
  cases other == name <;> rfl

theorem lookup_optionalField (name other : String) (value : Option Field) :
    (optionalField name value).lookup other = if other == name then value else none := by
  cases value with
  | none => exact (ite_self none).symm
  | some field => exact lookup_single name other field

theorem ofRecord?_record (h : LogHook) (e : Event) :
    ofRecord? (h.record e) = if h.logArguments then some (ofEvent e) else none := by
  have operation : (h.fields e).lookup "operation" = some (.text e.operation.name) := rfl
  have arguments : (h.fields e).lookup "arguments" =
      if h.logArguments then some (.text e.args.display) else none := by
    simp only [LogHook.fields, List.lookup_append, lookup_optionalField, List.lookup_cons,
      List.lookup_nil, String.reduceBEq, Option.none_or, if_true, Bool.false_eq_true, if_false,
      Option.or_none]
  have read : ofRecord? (h.record e) = ofFields? "operation" "arguments" (h.fields e) := rfl
  rw [read, ofFields?, operation, arguments]
  cases h.logArguments <;> rfl

theorem ofSpan?_span (h : TraceHook) (parent : Option SpanId) (e : Event) :
    ofSpan? (h.span parent e) =
      if h.logArguments && !e.args.isEmpty then some (ofEvent e) else none := by
  have operation : (h.attributes e).lookup "db.operation" = some (.text e.operation.name) := rfl
  have arguments : (h.attributes e).lookup "db.arguments" =
      if h.logArguments && !e.args.isEmpty then some (.text e.args.display) else none := by
    simp only [TraceHook.attributes, List.lookup_append, lookup_optionalField, List.lookup_cons,
      List.lookup_nil, String.reduceBEq, Option.none_or, if_true, Bool.false_eq_true, if_false]
  have read : ofSpan? (h.span parent e) =
    ofFields? "db.operation" "db.arguments" (h.attributes e) := rfl
  rw [read, ofFields?, operation, arguments]
  cases h.logArguments && !e.args.isEmpty <;> rfl

theorem ofSpan?_whileOpen {change : Span → Span} (kept : ∀ s, ofSpan? (change s) = ofSpan? s)
    (s : Span) : ofSpan? (Span.whileOpen change s) = ofSpan? s := by
  unfold Span.whileOpen
  split
  · rfl
  · exact kept s

theorem ofSpan?_setAttribute {name : String} (operation : "db.operation" ≠ name)
    (arguments : "db.arguments" ≠ name) (value : Field) (s : Span) :
    ofSpan? (s.setAttribute name value) = ofSpan? s := by
  refine ofSpan?_whileOpen (fun s => ?_) s
  simp only [ofSpan?, ofFields?, List.lookup_append, lookup_single, beq_false_of_ne operation,
    beq_false_of_ne arguments, Bool.false_eq_true, if_false, Option.or_none]

theorem ofSpan?_finish (s : Span) : ofSpan? s.finish = ofSpan? s := by
  refine ofSpan?_whileOpen (fun s => ?_) s
  rfl

theorem ofSpan?_recordError (text : String) (s : Span) :
    ofSpan? (s.recordError text) = ofSpan? s := by
  refine ofSpan?_whileOpen (fun s => ?_) s
  rfl

theorem ofSpan?_setStatus (status : SpanStatus) (s : Span) :
    ofSpan? (s.setStatus status) = ofSpan? s := by
  refine ofSpan?_whileOpen (fun s => ?_) s
  split <;> rfl

theorem ofSpan?_settle (e : Event) (s : Span) : ofSpan? (TraceHook.settle e s) = ofSpan? s := by
  have rows (value : Field) (s : Span) :
      ofSpan? (s.setAttribute "db.rows_affected" value) = ofSpan? s :=
    ofSpan?_setAttribute (by decide) (by decide) value s
  have id (value : Field) (s : Span) :
      ofSpan? (s.setAttribute "db.last_insert_id" value) = ofSpan? s :=
    ofSpan?_setAttribute (by decide) (by decide) value s
  unfold TraceHook.settle
  cases e.rowsAffected <;> cases e.lastInsertId <;> cases e.failure <;>
    simp only [ofSpan?_setStatus, ofSpan?_recordError, rows, id]

end ArgumentReport

theorem filterMap_modify {change : α → α} {f : α → Option β} (same : ∀ a, f (change a) = f a)
    (l : List α) (i : Nat) : (l.modify i change).filterMap f = l.filterMap f := by
  induction l generalizing i with
  | nil => rw [List.modify_nil]
  | cons a l ih =>
    cases i with
    | zero => rw [List.modify_zero_cons, List.filterMap_cons, List.filterMap_cons, same]
    | succ i => rw [List.modify_succ_cons, List.filterMap_cons, List.filterMap_cons, ih]

theorem filterMap_concat (f : α → Option β) (l : List α) (a : α) :
    (l ++ [a]).filterMap f = l.filterMap f ++ (f a).toList := by
  cases h : f a <;> simp [h]

/-- Of the reports that are added, in the stream of effects or with the spans, these hold, and the
reports that were there stay. -/
structure Telemetry.Reports (P : ArgumentReport → Prop) (t t' : Telemetry) : Prop where
  effects : ∃ rs, t'.effects.filterMap ArgumentReport.ofEffect? =
    t.effects.filterMap ArgumentReport.ofEffect? ++ rs ∧ ∀ r ∈ rs, P r
  spans : ∃ rs, t'.spans.filterMap ArgumentReport.ofSpan? =
    t.spans.filterMap ArgumentReport.ofSpan? ++ rs ∧ ∀ r ∈ rs, P r

namespace Telemetry

variable {P : ArgumentReport → Prop}

theorem reports_of_same {t t' : Telemetry}
    (effects : t'.effects.filterMap ArgumentReport.ofEffect? =
      t.effects.filterMap ArgumentReport.ofEffect?)
    (spans : t'.spans.filterMap ArgumentReport.ofSpan? =
      t.spans.filterMap ArgumentReport.ofSpan?) : Reports P t t' :=
  ⟨⟨[], by rw [effects, List.append_nil], nofun⟩, ⟨[], by rw [spans, List.append_nil], nofun⟩⟩

theorem Reports.refl (t : Telemetry) : Reports P t t := reports_of_same rfl rfl

theorem Reports.trans {t t' t'' : Telemetry} (h : Reports P t t') (h' : Reports P t' t'') :
    Reports P t t'' := by
  obtain ⟨⟨es, effects, told⟩, ⟨ss, spans, shown⟩⟩ := h
  obtain ⟨⟨es', effects', told'⟩, ⟨ss', spans', shown'⟩⟩ := h'
  constructor
  · refine ⟨es ++ es', ?_, List.forall_mem_append.mpr ⟨told, told'⟩⟩
    rw [effects', effects, List.append_assoc]
  · refine ⟨ss ++ ss', ?_, List.forall_mem_append.mpr ⟨shown, shown'⟩⟩
    rw [spans', spans, List.append_assoc]

theorem reports_tick (t : Telemetry) : Reports P t t.tick.2 := reports_of_same rfl rfl

theorem reports_emit {e : Effect} (told : ∀ r, ArgumentReport.ofEffect? e = some r → P r)
    (t : Telemetry) : Reports P t (t.emit e) := by
  constructor
  · refine ⟨(ArgumentReport.ofEffect? e).toList, t.filterMap_emit _ e, fun r member => ?_⟩
    exact told r (Option.mem_toList.mp member)
  · exact ⟨[], (List.append_nil _).symm, nofun⟩

/-- What is written tells in the effects, and what is started in the spans. -/
theorem reports_of_adds {ws : List Effect} {shown : List ArgumentReport} {t t' : Telemetry}
    (h : Adds ws t t')
    (written : ∀ e ∈ ws, ∀ r, ArgumentReport.ofEffect? e = some r → P r)
    (spans : t'.spans.filterMap ArgumentReport.ofSpan? =
      t.spans.filterMap ArgumentReport.ofSpan? ++ shown)
    (holds : ∀ r ∈ shown, P r) : Reports P t t' := by
  have blind : ∀ e : Effect, e.marksSpan = true → ArgumentReport.ofEffect? e = none := by
    rintro (_ | _ | _ | _ | _) ⟨⟩ <;> rfl
  refine ⟨⟨_, h.filterMap blind, fun r member => ?_⟩, shown, spans, holds⟩
  obtain ⟨e, listed, told⟩ := List.mem_filterMap.mp member
  exact written e listed r told

section

variable (t : Telemetry)

theorem shown_finishSpan (id : SpanId) :
    (t.finishSpan id).spans.filterMap ArgumentReport.ofSpan? =
      t.spans.filterMap ArgumentReport.ofSpan? := by
  rw [spans_finishSpan]
  exact filterMap_modify ArgumentReport.ofSpan?_finish t.spans id

theorem shown_letGo (ctx : Context) :
    (t.letGo ctx).spans.filterMap ArgumentReport.ofSpan? =
      t.spans.filterMap ArgumentReport.ofSpan? := by
  obtain ⟨holds, given⟩ := t.unhold_eq ctx
  rcases t.letGo_cases ctx with same | ⟨id, -, -, -, ended⟩
  · rw [same, given]
  · rw [ended, shown_finishSpan, given]

theorem reports_exchange (kept givenUp : List Context) : Reports P t (t.exchange kept givenUp) := by
  have spans : (t.exchange kept givenUp).spans.filterMap ArgumentReport.ofSpan? =
      (t.hold kept).spans.filterMap ArgumentReport.ofSpan? := by
    unfold exchange
    generalize t.hold kept = t
    induction givenUp generalizing t with
    | nil => rfl
    | cons ctx rest ih => exact (ih (t.letGo ctx)).trans (t.shown_letGo ctx)
  exact reports_of_adds (t.adds_exchange kept givenUp)
    (fun _ written => absurd written List.not_mem_nil) (spans.trans (List.append_nil _).symm)
    (fun _ shown => absurd shown List.not_mem_nil)

end

end Telemetry

open Telemetry (Reports)

namespace Hook

/-- What the span tells that a hook starts for a call. -/
def shown (e : Event) : Hook → List ArgumentReport
  | .trace k =>
    if k.excludes e.operation then [] else (ArgumentReport.ofSpan? (k.span none e)).toList
  | _ => []

theorem shown_before (h : Hook) (entry ctx : Context) (e : Event) (t : Telemetry) :
    (h.before entry ctx e t).2.spans.filterMap ArgumentReport.ofSpan? =
      t.spans.filterMap ArgumentReport.ofSpan? ++ h.shown e := by
  cases h with
  | record name => exact (List.append_nil _).symm
  | log hook => exact (List.append_nil _).symm
  | trace k =>
    simp only [before, TraceHook.before, shown]
    split
    · exact (List.append_nil _).symm
    · have started := filterMap_concat ArgumentReport.ofSpan? t.spans (k.span ctx.span e)
      unfold TraceHook.release
      split
      · split
        · exact started
        · exact (Telemetry.shown_finishSpan _ _).trans started
      · exact started

theorem shown_after (h : Hook) (ctx : Context) (e : Event) (t : Telemetry) :
    (h.after ctx e t).spans.filterMap ArgumentReport.ofSpan? =
      t.spans.filterMap ArgumentReport.ofSpan? := by
  cases h with
  | record name => rfl
  | log hook =>
    simp only [after, LogHook.after]
    split <;> rfl
  | trace k =>
    simp only [after, TraceHook.after]
    split
    · rfl
    · split
      · next id _ =>
        refine (Telemetry.shown_finishSpan _ id).trans ?_
        exact filterMap_modify (ArgumentReport.ofSpan?_settle e) t.spans id
      · rfl

/-- Whatever a hook tells of a call, it tells of the event that it is handed. -/
theorem ofEffect?_writes {h : Hook} {phase : Phase} {ctx : Context} {e : Event} {w : Effect}
    (written : w ∈ h.writes phase ctx e) {r : ArgumentReport}
    (told : ArgumentReport.ofEffect? w = some r) : r = ArgumentReport.ofEvent e := by
  cases h with
  | record name =>
    obtain rfl := List.mem_singleton.mp written
    exact (Option.some.inj told).symm
  | log hook =>
    cases phase with
    | before => cases written
    | after =>
      rw [writes] at written
      split at written
      · cases written
      · obtain rfl := List.mem_singleton.mp written
        change ArgumentReport.ofRecord? (hook.record e) = some r at told
        rw [ArgumentReport.ofRecord?_record, Option.ite_none_right_eq_some] at told
        exact (Option.some.inj told.2).symm
  | trace k => cases phase <;> cases written

theorem eq_of_mem_shown {h : Hook} {e : Event} {r : ArgumentReport} (member : r ∈ h.shown e) :
    r = ArgumentReport.ofEvent e := by
  cases h with
  | record name => cases member
  | log hook => cases member
  | trace k =>
    rw [shown] at member
    split at member
    · cases member
    · have told := Option.mem_toList.mp member
      rw [ArgumentReport.ofSpan?_span, Option.ite_none_right_eq_some] at told
      exact (Option.some.inj told.2).symm

end Hook

namespace Configuration

variable {P : ArgumentReport → Prop} {e : Event} (holds : P (ArgumentReport.ofEvent e))

theorem shown_beforeFrom (entry : Context) (e : Event) (hooks : List Hook) (ctx : Context)
    (t : Telemetry) :
    (beforeFrom entry e hooks ctx t).2.spans.filterMap ArgumentReport.ofSpan? =
      t.spans.filterMap ArgumentReport.ofSpan? ++ hooks.flatMap (Hook.shown e) := by
  induction hooks generalizing ctx t with
  | nil => exact (List.append_nil _).symm
  | cons h hooks ih =>
    rw [beforeFrom, ih, h.shown_before, List.append_assoc, List.flatMap_cons]

theorem shown_after (c : Configuration) (ctx : Context) (e : Event) (t : Telemetry) :
    (c.after ctx e t).spans.filterMap ArgumentReport.ofSpan? =
      t.spans.filterMap ArgumentReport.ofSpan? := by
  unfold after
  induction c.hooks generalizing t with
  | nil => rfl
  | cons h hooks ih => exact (ih (h.after ctx e t)).trans (h.shown_after ctx e t)

include holds

theorem reports_before (c : Configuration) (ctx : Context) (t : Telemetry) :
    Reports P t (c.before ctx e t).2 := by
  obtain ⟨vs, -, handed⟩ := c.before_visits ctx e t
  refine Telemetry.reports_of_adds handed.adds (fun w written r told => ?_)
    (shown_beforeFrom ctx e c.hooks ctx t) fun r member => ?_
  · obtain ⟨v, -, wrote⟩ := List.mem_flatMap.mp written
    exact Hook.ofEffect?_writes wrote told ▸ holds
  · obtain ⟨h, -, tells⟩ := List.mem_flatMap.mp member
    exact Hook.eq_of_mem_shown tells ▸ holds

theorem reports_after (c : Configuration) (ctx : Context) (t : Telemetry) :
    Reports P t (c.after ctx e t) := by
  refine Telemetry.reports_of_adds (c.adds_after ctx e t) (fun w written r told => ?_)
    ((c.shown_after ctx e t).trans (List.append_nil _).symm) nofun
  obtain ⟨h, -, wrote⟩ := List.mem_flatMap.mp written
  exact Hook.ofEffect?_writes wrote told ▸ holds

end Configuration

/-- Whatever the world in which it starts, of the reports that a run adds these hold. -/
def Run.ReportsOnly (P : ArgumentReport → Prop) (p : Run σ α) : Prop :=
  ∀ w : World σ, Telemetry.Reports P w.telemetry (p w).2.telemetry

namespace Run.ReportsOnly

variable {P : ArgumentReport → Prop}

theorem pure (a : α) : Run.ReportsOnly P (Pure.pure a : Run σ α) := fun w => .refl w.telemetry

theorem bind {p : Run σ α} {f : α → Run σ β} (first : Run.ReportsOnly P p)
    (rest : ∀ a, Run.ReportsOnly P (f a)) : Run.ReportsOnly P (p >>= f) := fun w =>
  (first w).trans (rest (p w).1 (p w).2)

theorem map {p : Run σ α} (h : Run.ReportsOnly P p) (f : α → β) :
    Run.ReportsOnly P (p >>= fun a => Pure.pure (f a)) := h.bind fun a => pure (f a)

theorem ambient {p : Context → Run σ α} (h : ∀ ctx, Run.ReportsOnly P (p ctx)) :
    Run.ReportsOnly P (World.ambientContext >>= p) := fun w => h w.ambient w

theorem ask (id : BaseId) (call : BaseCall) (method : Call σ α) :
    Run.ReportsOnly P (World.ask id call method) := fun w =>
  Telemetry.reports_emit (e := .called id call) nofun w.telemetry

theorem observe {config : Configuration} {ctx : Context} {e : Event} {call : Context → Run σ α}
    {verdict : α → Verdict} (holds : P (ArgumentReport.ofEvent e))
    (inside : ∀ ctx, Run.ReportsOnly P (call ctx)) :
    Run.ReportsOnly P (DriverTelemetry.observe config ctx e call verdict) := by
  intro w
  let first := config.before ctx e w.telemetry
  let begun := first.2.tick
  let answered := call first.1 { w with telemetry := begun.2 }
  let ended := answered.2.telemetry.tick
  have before : Reports P w.telemetry begun.2 :=
    (config.reports_before holds ctx w.telemetry).trans (Telemetry.reports_tick first.2)
  have asked : Reports P begun.2 ended.2 :=
    (inside first.1 { w with telemetry := begun.2 }).trans (Telemetry.reports_tick _)
  have last : Reports P ended.2 (config.after first.1
      (((e.start begun.1).stop ended.1).settle (verdict answered.1)) ended.2) := by
    refine config.reports_after ?_ first.1 ended.2
    rw [ArgumentReport.ofEvent_ended]
    exact holds
  exact before.trans (asked.trans last)

theorem exchange {p : Run σ α} (h : Run.ReportsOnly P p) (kept givenUp : α → List Context)
    (f : α → β) : Run.ReportsOnly P
      (p >>= fun a => World.exchange (kept a) (givenUp a) >>= fun _ => Pure.pure (f a)) := fun w =>
  (h w).trans ((p w).2.telemetry.reports_exchange (kept (p w).1) (givenUp (p w).1))

end Run.ReportsOnly

end DriverTelemetry
