import DriverTelemetry.Proofs.Provenance

/-!
# Whose spans the hooks touch

The pass before a call adds spans and ends those of its own that it displaces. The pass after it
finds its span in the context, and it is one of its own: a pass whose hooks trace the operation has
replaced whatever span was active, and one whose hooks leave the operation out touches none. Handing
contexts over touches a span only where its last context is given up.
-/
namespace DriverTelemetry

variable {σ : Type}

theorem Span.finish_finish (s : Span) : s.finish.finish = s.finish :=
  Span.whileOpen_of_ended (Span.ended_finish s) _

theorem Span.origin_finish (s : Span) : s.finish.origin = s.origin := by
  unfold Span.finish Span.whileOpen
  split <;> rfl

namespace Telemetry

/-- Spans are only added. Of those that were there only the own ones change, and of the others only
the lost ones end, and keep all else. -/
structure Touches (own lost : SpanId → Prop) (t t' : Telemetry) : Prop where
  length_le : t.spans.length ≤ t'.spans.length
  kept : ∀ id, id < t.spans.length → ¬ own id → t'.spans[id]? = t.spans[id]? ∨
    lost id ∧ t'.spans[id]? = t.spans[id]?.map Span.finish
  ended : ∃ ids, t'.finished = t.finished ++ ids ∧
    ∀ id ∈ ids, own id ∨ lost id ∨ t.spans.length ≤ id

/-- No span that was there changes, but that the lost ones end. -/
abbrev Spares (lost : SpanId → Prop) : Telemetry → Telemetry → Prop := Touches (fun _ => False) lost

variable {own own' lost lost' : SpanId → Prop} {t t' t'' : Telemetry}

theorem touches_of_same (spans : t'.spans = t.spans) (finished : t'.finished = t.finished) :
    Touches own lost t t' := by
  refine ⟨?_, fun id _ _ => .inl ?_, [], ?_, nofun⟩
  · exact Nat.le_of_eq (congrArg List.length spans.symm)
  · rw [spans]
  · rw [finished, List.append_nil]

theorem Touches.refl (own lost : SpanId → Prop) (t : Telemetry) : Touches own lost t t :=
  touches_of_same rfl rfl

/-- The step after it may own and lose what is new, and else what both may. -/
theorem Touches.trans_of (h : Touches own lost t t') (h' : Touches own lost' t' t'')
    (within : ∀ id, id < t.spans.length → lost' id → own id ∨ lost id) :
    Touches own lost t t'' := by
  obtain ⟨ids, ended, belong⟩ := h.ended
  obtain ⟨ids', ended', belong'⟩ := h'.ended
  refine ⟨Nat.le_trans h.length_le h'.length_le, fun id old foreign => ?_, ids ++ ids', ?_, ?_⟩
  · have still := Nat.lt_of_lt_of_le old h.length_le
    rcases h'.kept id still foreign with same | ⟨loses, finished⟩
    · rw [same]
      exact h.kept id old foreign
    · refine .inr ⟨(within id old loses).resolve_left foreign, ?_⟩
      rcases h.kept id old foreign with same | ⟨-, before⟩
      · rw [finished, same]
      · rw [finished, before, Option.map_map]
        exact congrArg (Option.map · _) (funext Span.finish_finish)
  · rw [ended', ended, List.append_assoc]
  · intro id member
    rcases List.mem_append.mp member with first | second
    · exact belong id first
    · by_cases old : id < t.spans.length
      · rcases belong' id second with mine | loses | new
        · exact .inl mine
        · exact (within id old loses).imp_right .inl
        · exact .inr (.inr (Nat.le_trans h.length_le new))
      · exact .inr (.inr (Nat.le_of_not_lt old))

theorem Touches.trans (h : Touches own lost t t') (h' : Touches own lost t' t'') :
    Touches own lost t t'' := h.trans_of h' fun _ _ => .inr

theorem Touches.mono (h : Touches own lost t t') (included : ∀ id, own id → own' id)
    (loses : ∀ id, lost id → own' id ∨ lost' id) : Touches own' lost' t t' := by
  obtain ⟨ids, ended, belong⟩ := h.ended
  refine ⟨h.length_le, fun id old foreign => ?_, ids, ended, fun id member => ?_⟩
  · rcases h.kept id old fun mine => foreign (included id mine) with same | ⟨gone, finished⟩
    · exact .inl same
    · exact .inr ⟨(loses id gone).resolve_left foreign, finished⟩
  · rcases belong id member with mine | gone | new
    · exact .inl (included id mine)
    · exact (loses id gone).imp_right .inl
    · exact .inr (.inr new)

theorem Spares.touches (h : Spares lost t t') : Touches own lost t t' :=
  h.mono (fun _ => False.elim) fun _ => .inr

theorem Touches.spares (h : Touches (t.spans.length ≤ ·) lost t t') : Spares lost t t' := by
  obtain ⟨ids, ended, belong⟩ := h.ended
  refine ⟨h.length_le, fun id old _ => h.kept id old (by omega), ids, ended, fun id member => ?_⟩
  exact .inr ((belong id member).elim .inr fun lost_or_new => lost_or_new)

theorem Touches.isCallers (h : Touches own lost t t') {id : SpanId} (old : id < t.spans.length)
    (foreign : ¬ own id) : t'.isCallers id = t.isCallers id := by
  unfold Telemetry.isCallers
  rcases h.kept id old foreign with same | ⟨-, finished⟩
  · rw [same]
  · rw [finished]
    cases t.spans[id]? with
    | none => rfl
    | some s => simp [Span.origin_finish]

theorem isCallers_of_length_le {id : SpanId} (new : t.spans.length ≤ id) :
    t.isCallers id = false := by
  rw [Telemetry.isCallers, List.getElem?_eq_none new]

@[simp] theorem isCallers_finishSpan (t : Telemetry) (id other : SpanId) :
    (t.finishSpan id).isCallers other = t.isCallers other := by
  rw [Telemetry.isCallers, Telemetry.isCallers, spans_finishSpan, List.getElem?_modify]
  cases t.spans[other]? with
  | none => rfl
  | some s =>
    by_cases same : id = other
    · simp [same, Span.origin_finish]
    · simp [same]

theorem isCallers_startSpan {s : Span} (traces : s.origin ≠ .caller) (t : Telemetry)
    (id : SpanId) : (t.startSpan s).2.isCallers id = t.isCallers id := by
  rw [Telemetry.isCallers, Telemetry.isCallers, spans_startSpan]
  rcases Nat.lt_trichotomy id t.spans.length with old | rfl | beyond
  · rw [List.getElem?_append_left old]
  · simp [traces]
  · rw [List.getElem?_eq_none (by simp; omega), List.getElem?_eq_none (by omega)]

theorem touches_tick (own lost : SpanId → Prop) (t : Telemetry) : Touches own lost t t.tick.2 :=
  touches_of_same rfl rfl

theorem touches_startSpan (own lost : SpanId → Prop) (s : Span) (t : Telemetry) :
    Touches own lost t (t.startSpan s).2 := by
  refine ⟨by simp, fun id old _ => .inl ?_, [], by simp, nofun⟩
  rw [spans_startSpan, List.getElem?_append_left old]

theorem touches_changeSpan {id : SpanId} (mine : own id) (change : Span → Span) (t : Telemetry) :
    Touches own lost t (t.changeSpan id change) := by
  refine ⟨by simp, fun other _ foreign => .inl ?_, [], by simp, nofun⟩
  have ne : id ≠ other := fun same => foreign (same ▸ mine)
  simp [ne]

theorem touches_finishSpan {id : SpanId} (mine : own id ∨ lost id) (t : Telemetry) :
    Touches own lost t (t.finishSpan id) := by
  refine ⟨by simp, fun other _ foreign => ?_, _, finished_finishSpan t id, fun other member => ?_⟩
  · rw [spans_finishSpan, List.getElem?_modify]
    by_cases same : id = other
    · subst same
      exact .inr ⟨mine.resolve_left foreign, by simp⟩
    · exact .inl (by simp [same])
  · split at member
    · obtain rfl := List.mem_singleton.mp member
      exact mine.imp_right .inl
    · cases member

/-- No more is lost than the span of the program around of which this was the last context. -/
theorem spares_letGo (ctx : Context) (t : Telemetry) :
    Spares (fun id => ctx.span = some id ∧ t.isCallers id = true ∧ t.holds.count id ≤ 1) t
      (t.letGo ctx) := by
  obtain ⟨holds, given⟩ := t.unhold_eq ctx
  have same {own lost : SpanId → Prop} : Touches own lost t (t.unhold ctx) :=
    given ▸ touches_of_same rfl rfl
  rcases t.letGo_cases ctx with kept | ⟨id, active, callers, last, ended⟩
  · rw [kept]
    exact same
  · rw [ended]
    exact same.trans (touches_finishSpan (.inr ⟨active, callers, last⟩) _)

theorem count_hold (ctxs : List Context) (t : Telemetry) (id : SpanId) :
    (t.hold ctxs).holds.count id = ctxs.countP (Context.shows id) + t.holds.count id := by
  rw [hold, List.count_append, List.count_filterMap]
  congr 2
  funext ctx
  rw [Context.shows, beq_eq_decide]

theorem count_letGo_shows (ctx : Context) (t : Telemetry) (id : SpanId) :
    (t.letGo ctx).holds.count id = t.holds.count id - if Context.shows id ctx then 1 else 0 := by
  simp [count_letGo, Context.shows]

/-- Handing contexts over loses no span of which more contexts are kept than are given up. -/
theorem spares_exchange (kept givenUp : List Context) (t : Telemetry) :
    Spares (fun id => t.isCallers id = true ∧ 0 < givenUp.countP (Context.shows id) ∧
        kept.countP (Context.shows id) + t.holds.count id ≤ givenUp.countP (Context.shows id))
      t (t.exchange kept givenUp) := by
  have held : Spares (fun _ => False) t (t.hold kept) := touches_of_same rfl rfl
  have letGo (t : Telemetry) : Spares (fun id => t.isCallers id = true ∧
        0 < givenUp.countP (Context.shows id) ∧
        t.holds.count id ≤ givenUp.countP (Context.shows id))
      t (givenUp.foldl (fun t ctx => t.letGo ctx) t) := by
    induction givenUp generalizing t with
    | nil => exact .refl _ _ t
    | cons ctx rest ih =>
      refine ((spares_letGo ctx t).mono (fun _ => id) ?_).trans_of (ih (t.letGo ctx)) ?_
      · intro id ⟨active, callers, last⟩
        have shown : Context.shows id ctx = true := decide_eq_true active
        rw [List.countP_cons, if_pos shown]
        exact .inr ⟨callers, by omega, by omega⟩
      · intro id old ⟨callers, some_left, few⟩
        rw [(spares_letGo ctx t).isCallers old False.elim] at callers
        rw [count_letGo_shows] at few
        rw [List.countP_cons]
        exact .inr ⟨callers, by omega, by omega⟩
  refine (held.mono (fun _ => id) fun _ => False.elim).trans_of (letGo (t.hold kept)) ?_
  intro id _ ⟨callers, some_given, few⟩
  rw [count_hold] at few
  exact .inr ⟨callers, some_given, few⟩

theorem length_exchange (kept givenUp : List Context) (t : Telemetry) :
    (t.exchange kept givenUp).spans.length = t.spans.length := by
  change _ = (t.hold kept).spans.length
  rw [exchange]
  generalize t.hold kept = t
  induction givenUp generalizing t with
  | nil => rfl
  | cons ctx rest ih =>
    obtain ⟨holds, given⟩ := t.unhold_eq ctx
    have same : (t.letGo ctx).spans.length = t.spans.length := by
      rcases t.letGo_cases ctx with kept | ⟨id, -, -, -, ended⟩
      · rw [kept, given]
      · rw [ended, given, spans_finishSpan, List.length_modify]
    exact (ih (t.letGo ctx)).trans same

theorem count_exchange (kept givenUp : List Context) (t : Telemetry) (id : SpanId) :
    kept.countP (Context.shows id) + t.holds.count id ≤
      (t.exchange kept givenUp).holds.count id + givenUp.countP (Context.shows id) := by
  rw [← count_hold, exchange]
  generalize t.hold kept = t
  induction givenUp generalizing t with
  | nil => exact Nat.le_refl _
  | cons ctx rest ih =>
    have later := ih (t.letGo ctx)
    rw [count_letGo_shows] at later
    rw [List.countP_cons, List.foldl_cons]
    omega

end Telemetry

open Telemetry (Touches Spares)

namespace TraceHook

theorem before_of_traces {k : TraceHook} {e : Event} (traced : k.excludes e.operation = false)
    (entry ctx : Context) (t : Telemetry) :
    k.before entry ctx e t =
      (ctx.withSpan t.spans.length, release entry ctx (t.startSpan (k.span ctx.span e)).2) := by
  simp [before, traced]

theorem after_of_traces {k : TraceHook} {e : Event} (traced : k.excludes e.operation = false)
    {ctx : Context} {id : SpanId} (active : ctx.span = some id) (t : Telemetry) :
    k.after ctx e t = (t.changeSpan id (settle e)).finishSpan id := by
  simp [after, traced, active]

@[simp] theorem length_release (entry ctx : Context) (t : Telemetry) :
    (release entry ctx t).spans.length = t.spans.length := by
  unfold release
  split
  · split <;> simp
  · rfl

theorem touches_release {own lost : SpanId → Prop} {entry ctx : Context}
    (active : ctx.span = entry.span ∨ ∀ id, ctx.span = some id → own id) (t : Telemetry) :
    Touches own lost t (release entry ctx t) := by
  unfold release
  split
  · next id current =>
    split
    · exact .refl own lost t
    · next displaced =>
      rcases active with entered | mine
      · exact absurd (entered ▸ current) displaced
      · exact Telemetry.touches_finishSpan (.inl (mine id current)) t
  · exact .refl own lost t

end TraceHook

@[simp] theorem TraceHook.holds_release (entry ctx : Context) (t : Telemetry) :
    (release entry ctx t).holds = t.holds := by
  unfold release
  split
  · split <;> simp
  · rfl

@[simp] theorem TraceHook.isCallers_release (entry ctx : Context) (t : Telemetry) (id : SpanId) :
    (release entry ctx t).isCallers id = t.isCallers id := by
  unfold release
  split
  · split <;> simp
  · rfl

namespace Hook

theorem isCallers_before (h : Hook) (entry ctx : Context) (e : Event) (t : Telemetry)
    (id : SpanId) : (h.before entry ctx e t).2.isCallers id = t.isCallers id := by
  cases h with
  | record name => rfl
  | log hook => rfl
  | trace k =>
    simp only [before, TraceHook.before]
    split
    · rfl
    · exact (TraceHook.isCallers_release entry ctx _ id).trans
        (Telemetry.isCallers_startSpan SpanOrigin.noConfusion t id)

@[simp] theorem holds_before (h : Hook) (entry ctx : Context) (e : Event) (t : Telemetry) :
    (h.before entry ctx e t).2.holds = t.holds := by
  cases h with
  | record name => rfl
  | log hook => rfl
  | trace k =>
    simp only [before, TraceHook.before]
    split <;> simp

@[simp] theorem holds_after (h : Hook) (ctx : Context) (e : Event) (t : Telemetry) :
    (h.after ctx e t).holds = t.holds := by
  cases h with
  | record name => rfl
  | log hook =>
    simp only [after, LogHook.after]
    split <;> rfl
  | trace k =>
    simp only [after, TraceHook.after]
    split
    · rfl
    · split <;> simp

/-- The hook is no tracing hook, or one that leaves the operation out. -/
def Idle (op : Operation) (h : Hook) : Prop := tracers op [h] = []

variable {h : Hook} {k : TraceHook}

theorem idle_or_traces (op : Operation) (h : Hook) :
    h.Idle op ∨ ∃ k, h = .trace k ∧ k.excludes op = false := by
  cases h with
  | record name => exact .inl rfl
  | log hook => exact .inl rfl
  | trace k =>
    cases excluded : k.excludes op with
    | true => exact .inl (by simp [Idle, tracers_trace, excluded])
    | false => exact .inr ⟨k, rfl, excluded⟩

theorem tracers_of_idle {op : Operation} (idle : h.Idle op) (hooks : List Hook) :
    tracers op (h :: hooks) = tracers op hooks := by
  rw [← List.singleton_append, tracers_append, idle, List.nil_append]

theorem tracers_of_traces {op : Operation} (traced : k.excludes op = false) (hooks : List Hook) :
    tracers op (.trace k :: hooks) = k :: tracers op hooks := by
  simp [tracers_trace, traced]

theorem excludes_of_idle {op : Operation} (idle : (Hook.trace k).Idle op) :
    k.excludes op = true := by
  simpa [Idle, tracers_trace] using idle

theorem tracers_tail {op : Operation} {hooks : List Hook} (none : tracers op (h :: hooks) = []) :
    tracers op hooks = [] := by
  rw [← List.singleton_append, tracers_append] at none
  exact (List.append_eq_nil_iff.mp none).2

theorem before_idle {e : Event} (idle : h.Idle e.operation) (entry ctx : Context) (t : Telemetry) :
    ∃ ctx' t', h.before entry ctx e t = (ctx', t') ∧ ctx'.span = ctx.span ∧ t'.spans = t.spans ∧
      t'.finished = t.finished := by
  cases h with
  | record name =>
    exact ⟨_, _, rfl, rfl, rfl, (Telemetry.finished_nextSeq _).trans (by simp [Effect.end?])⟩
  | log hook => exact ⟨ctx, t, rfl, rfl, rfl, rfl⟩
  | trace k =>
    exact ⟨ctx, t, by simp [before, TraceHook.before, excludes_of_idle idle], rfl, rfl, rfl⟩

theorem after_idle {e : Event} (idle : h.Idle e.operation) (ctx : Context) (t : Telemetry) :
    (h.after ctx e t).spans = t.spans ∧ (h.after ctx e t).finished = t.finished := by
  cases h with
  | record name => simp [after, Effect.end?]
  | log hook =>
    simp only [after, LogHook.after]
    split <;> simp [Effect.end?]
  | trace k => simp [after, TraceHook.after, excludes_of_idle idle]

end Hook

namespace Configuration

open Hook

variable (entry : Context) (e : Event)

theorem holds_beforeFrom (hooks : List Hook) (ctx : Context) (t : Telemetry) :
    (beforeFrom entry e hooks ctx t).2.holds = t.holds := by
  induction hooks generalizing ctx t with
  | nil => rfl
  | cons h hooks ih => rw [beforeFrom, ih, h.holds_before]

theorem isCallers_beforeFrom (hooks : List Hook) (ctx : Context) (t : Telemetry) (id : SpanId) :
    (beforeFrom entry e hooks ctx t).2.isCallers id = t.isCallers id := by
  induction hooks generalizing ctx t with
  | nil => rfl
  | cons h hooks ih => rw [beforeFrom, ih, h.isCallers_before]

theorem holds_after (c : Configuration) (ctx : Context) (e : Event) (t : Telemetry) :
    (c.after ctx e t).holds = t.holds := by
  unfold after
  induction c.hooks generalizing t with
  | nil => rfl
  | cons h hooks ih => rw [List.foldl_cons, ih, h.holds_after]

theorem length_beforeFrom (hooks : List Hook) (ctx : Context) (t : Telemetry) :
    (beforeFrom entry e hooks ctx t).2.spans.length =
      t.spans.length + (tracers e.operation hooks).length := by
  induction hooks generalizing ctx t with
  | nil => rfl
  | cons h hooks ih =>
    rcases idle_or_traces e.operation h with idle | ⟨k, rfl, traced⟩
    · obtain ⟨ctx', t', turn, -, spans, -⟩ := before_idle idle entry ctx t
      rw [beforeFrom, turn, ih, spans, tracers_of_idle idle]
    · have turn := TraceHook.before_of_traces traced entry ctx t
      rw [beforeFrom, Hook.before, turn, ih, tracers_of_traces traced]
      simp [Nat.add_assoc, Nat.add_comm 1]

theorem span_beforeFrom (hooks : List Hook) (ctx : Context) (t : Telemetry) :
    (beforeFrom entry e hooks ctx t).1.span =
      if tracers e.operation hooks = [] then ctx.span
      else some (t.spans.length + (tracers e.operation hooks).length - 1) := by
  induction hooks generalizing ctx t with
  | nil => rfl
  | cons h hooks ih =>
    rcases idle_or_traces e.operation h with idle | ⟨k, rfl, traced⟩
    · obtain ⟨ctx', t', turn, active, spans, -⟩ := before_idle idle entry ctx t
      rw [beforeFrom, turn, ih, active, spans, tracers_of_idle idle]
    · have turn := TraceHook.before_of_traces traced entry ctx t
      rw [beforeFrom, Hook.before, turn, ih, tracers_of_traces traced]
      cases rest : tracers e.operation hooks with
      | nil => simp [Context.withSpan]
      | cons k' ks => simp [Nat.add_assoc, Nat.add_comm 1]

/-- A pass touches only spans from the given one on, where it goes on with the span with which it
was entered or with such a one. -/
theorem beforeFrom_touches {lost : SpanId → Prop} {first : SpanId} (hooks : List Hook)
    (ctx : Context) (t : Telemetry)
    (started : first ≤ t.spans.length)
    (active : ctx.span = entry.span ∨ ∀ id, ctx.span = some id → first ≤ id) :
    Touches (first ≤ ·) lost t (beforeFrom entry e hooks ctx t).2 := by
  -- The active span is the one of the entry, which no hook releases, until the first tracing hook
  -- replaces it by one that the pass started.
  induction hooks generalizing ctx t with
  | nil => exact .refl _ lost t
  | cons h hooks ih =>
    rw [beforeFrom]
    rcases idle_or_traces e.operation h with idle | ⟨k, rfl, traced⟩
    · obtain ⟨ctx', t', turn, same, spans, finished⟩ := before_idle idle entry ctx t
      rw [turn]
      have rest := ih ctx' t' (spans ▸ started) (same ▸ active)
      exact (Telemetry.touches_of_same spans finished).trans rest
    · have turn := TraceHook.before_of_traces traced entry ctx t
      rw [Hook.before, turn]
      have start := Telemetry.touches_startSpan (first ≤ ·) lost (k.span ctx.span e) t
      have release : Touches (first ≤ ·) lost (t.startSpan (k.span ctx.span e)).2 _ :=
        TraceHook.touches_release active _
      refine (start.trans release).trans (ih _ _ ?_ (.inr ?_))
      · exact Nat.le_trans started (start.trans release).length_le
      · rintro id ⟨⟩
        exact started

/-- The pass after a call changes and ends at most the active span, and only where some hook traces
the operation. -/
theorem after_touches {own lost : SpanId → Prop} (c : Configuration) (ctx : Context) (e : Event)
    (t : Telemetry)
    (mine : tracers e.operation c.hooks ≠ [] → ∀ id, ctx.span = some id → own id) :
    Touches own lost t (c.after ctx e t) ∧ (c.after ctx e t).spans.length = t.spans.length := by
  unfold after
  generalize c.hooks = hooks at mine
  induction hooks generalizing t with
  | nil => exact ⟨.refl own lost t, rfl⟩
  | cons h hooks ih =>
    rw [List.foldl_cons]
    have turn : Touches own lost t (h.after ctx e t) ∧
        (h.after ctx e t).spans.length = t.spans.length := by
      rcases idle_or_traces e.operation h with idle | ⟨k, rfl, traced⟩
      · obtain ⟨spans, finished⟩ := after_idle idle ctx t
        exact ⟨Telemetry.touches_of_same spans finished, by rw [spans]⟩
      · have some_traces : tracers e.operation (.trace k :: hooks) ≠ [] := by
          simp [tracers_of_traces traced]
        cases active : ctx.span with
        | none => simp [Hook.after, TraceHook.after, traced, active, Touches.refl]
        | some id =>
          have owned := mine some_traces id active
          rw [Hook.after, TraceHook.after_of_traces traced active]
          refine ⟨(Telemetry.touches_changeSpan owned _ t).trans
            (Telemetry.touches_finishSpan (.inl owned) _), by simp⟩
    have rest := ih (h.after ctx e t) fun others => mine fun none => others (tracers_tail none)
    exact ⟨turn.1.trans rest.1, rest.2.trans turn.2⟩

end Configuration

end DriverTelemetry
