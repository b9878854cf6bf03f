import DriverTelemetry.Proofs.Marks
import DriverTelemetry.Proofs.Told
import DriverTelemetry.Proofs.Tracing
import Mathlib.Data.List.Basic

/-!
# The stream of finished spans

Where the hooks around each handle trace at most once, the finished spans are those of the calls
that the hooks are told of and that are traced, one for each, in the order in which the calls come
to their ends. The parent of a span is the one that is active in the context with which the hooks
of its call are entered, and all else that it says is read off the event after the call.
-/
namespace DriverTelemetry

variable {σ : Type}

namespace Telemetry

def Tidy (t : Telemetry) : Prop := ∀ id ∈ t.finished, id < t.spans.length

def traced (t : Telemetry) : List Span :=
  t.finished.filterMap fun id => t.spans[id]?.filter fun s => s.origin ≠ .caller

/-- These spans are finished, in this order, and all those finished before stay as they are. -/
def Streams (new : List Span) (t t' : Telemetry) : Prop :=
  t.Tidy → t'.Tidy ∧ t'.traced = t.traced ++ new

variable {new new' : List Span} {t t' t'' : Telemetry}

theorem Streams.trans (h : Streams new t t') (h' : Streams new' t' t'') :
    Streams (new ++ new') t t'' := by
  intro tidy
  obtain ⟨tidy', traced⟩ := h tidy
  obtain ⟨tidy'', traced'⟩ := h' tidy'
  exact ⟨tidy'', by rw [traced', traced, List.append_assoc]⟩

/-- Where nothing is finished first, all that is finished is finished after it. -/
theorem Streams.then (h : Streams [] t t') (h' : Streams new t' t'') : Streams new t t'' :=
  h.trans h'

theorem traced_append {ids : List SpanId} (kept : ∀ id ∈ t.finished, t'.spans[id]? = t.spans[id]?)
    (finished : t'.finished = t.finished ++ ids) : t'.traced = t.traced ++
      ids.filterMap fun id => t'.spans[id]?.filter fun s => s.origin ≠ .caller := by
  rw [traced, finished, List.filterMap_append, traced]
  congr 1
  exact List.filterMap_congr fun id member => by rw [kept id member]

theorem streams_of_started {started : List Span} (spans : t'.spans = t.spans ++ started)
    (finished : t'.finished = t.finished) : Streams [] t t' := by
  intro tidy
  have old : ∀ id ∈ t.finished, t'.spans[id]? = t.spans[id]? := fun id member => by
    rw [spans, List.getElem?_append_left (tidy id member)]
  refine ⟨fun id member => ?_, traced_append old (finished.trans (List.append_nil _).symm)⟩
  rw [finished] at member
  rw [spans, List.length_append]
  exact Nat.lt_add_right _ (tidy id member)

theorem streams_of_same (spans : t'.spans = t.spans) (finished : t'.finished = t.finished) :
    Streams [] t t' := streams_of_started (spans.trans (List.append_nil _).symm) finished

theorem Streams.refl (t : Telemetry) : Streams [] t t := streams_of_same rfl rfl

theorem origin_of_isCallers {id : SpanId} (callers : t.isCallers id = true) :
    ∃ s, t.spans[id]? = some s ∧ s.origin = .caller := by
  unfold Telemetry.isCallers at callers
  split at callers
  · next s found => exact ⟨s, found, of_decide_eq_true callers⟩
  · cases callers

theorem streams_finishSpan {id : SpanId} (callers : t.isCallers id = true) :
    Streams [] t (t.finishSpan id) := by
  intro tidy
  obtain ⟨s, found, origin⟩ := origin_of_isCallers callers
  have length : (t.finishSpan id).spans.length = t.spans.length := by simp
  have shown (other : SpanId) : ((t.finishSpan id).spans[other]?.filter fun s =>
      s.origin ≠ .caller) = t.spans[other]?.filter fun s => s.origin ≠ .caller := by
    rw [spans_finishSpan, List.getElem?_modify]
    by_cases same : id = other
    · subst same
      simp [found, Option.filter, Span.origin_finish, origin]
    · simp [same]
  refine ⟨fun other member => ?_, ?_⟩
  · rw [length]
    rw [finished_finishSpan] at member
    rcases List.mem_append.mp member with old | last
    · exact tidy other old
    · split at last
      · obtain rfl := List.mem_singleton.mp last
        exact (List.getElem?_eq_some_iff.mp found).1
      · cases last
  · simp only [traced, shown]
    rw [finished_finishSpan, List.filterMap_append]
    split <;> simp [found, origin]

theorem streams_exchange (kept givenUp : List Context) (t : Telemetry) :
    Streams [] t (t.exchange kept givenUp) := by
  have held : Streams [] t (t.hold kept) := streams_of_same rfl rfl
  refine held.then ?_
  unfold exchange
  generalize t.hold kept = t
  induction givenUp generalizing t with
  | nil => exact .refl t
  | cons ctx rest ih =>
    refine Streams.then ?_ (ih (t.letGo ctx))
    obtain ⟨holds, given⟩ := t.unhold_eq ctx
    have same : Streams [] t (t.unhold ctx) := given ▸ streams_of_same rfl rfl
    rcases t.letGo_cases ctx with kept | ⟨id, -, callers, -, ended⟩
    · rw [kept]
      exact same
    · rw [ended]
      refine same.then (streams_finishSpan ?_)
      rw [given]
      exact callers

theorem streams_of_finished {id : SpanId} {s s' : Span} {change : Span → Span}
    (found : t.spans[id]? = some s) (unended : id ∉ t.finished) (changed : change s = s')
    (traces : s'.origin ≠ .caller) (spans : t'.spans = t.spans.modify id change)
    (finished : t'.finished = t.finished ++ [id]) : Streams [s'] t t' := by
  intro tidy
  have length : t'.spans.length = t.spans.length := by rw [spans, List.length_modify]
  have kept : ∀ other ∈ t.finished, t'.spans[other]? = t.spans[other]? := by
    intro other member
    have ne : id ≠ other := fun same => unended (same ▸ member)
    simp [spans, ne]
  have ended : t'.spans[id]? = some s' := by simp [spans, found, changed]
  refine ⟨fun other member => ?_, ?_⟩
  · rw [length]
    rw [finished] at member
    rcases List.mem_append.mp member with old | last
    · exact tidy other old
    · obtain rfl := List.mem_singleton.mp last
      exact (List.getElem?_eq_some_iff.mp found).1
  · rw [traced_append kept finished]
    simp [ended, Option.filter, traces]

end Telemetry

open Telemetry (Streams)

/-- The configurations under which a connection is observed, from the outside in. -/
def Conn.configs : Conn σ → List Configuration
  | .base _ => []
  | .observed config inner => config :: inner.configs

def Stmt.configs : Stmt σ → List Configuration
  | .base _ => []
  | .observed config _ _ inner => config :: inner.configs

def Tx.configs : Tx σ → List Configuration
  | .base _ => []
  | .observed config _ inner => config :: inner.configs

namespace Target

def configs : Target σ → List Configuration
  | .conn c => c.configs
  | .stmt s => s.configs
  | .tx t => t.configs

theorem configs_of_base {t : Target σ} (h : t.baseId?.isSome = true) : t.configs = [] := by
  match t, h with
  | .conn (.base c), _ => rfl
  | .stmt (.base s), _ => rfl
  | .tx (.base t), _ => rfl

theorem configs_target (x : Wrapper σ) : x.target.configs = x.config :: x.inner.configs := by
  cases x <;> rfl

end Target

theorem Wrapper.configs_settled (x : Wrapper σ) (ctx : Context) (call : BaseCall) (w : World σ) :
    (x.settled ctx (x.inner.perform call w).1.2).configs =
      x.config :: (x.inner.perform call w).1.2.configs := by
  cases x <;> rfl

theorem Response.configs_observed {r : Response σ} {config : Configuration} {text : String}
    {ctx : Context} {t : Target σ} (h : (r.observed config text ctx).target? = some t) :
    ∃ inner, r.target? = some inner ∧ t.configs = config :: inner.configs := by
  match r, h with
  | .stmt (.ok s), rfl => exact ⟨.stmt s, rfl, rfl⟩
  | .tx (.ok t), rfl => exact ⟨.tx t, rfl, rfl⟩

theorem Target.configs_perform (t : Target σ) (call : BaseCall) (w : World σ) :
    (t.perform call w).1.2.configs = t.configs ∧
      ∀ created, (t.perform call w).1.1.target? = some created →
        created.configs = t.configs := by
  induction t using Target.induct generalizing call w with
  | base t id handle =>
    have plain := configs_of_base (Option.isSome_of_eq_some handle)
    rcases perform_base handle call w with ⟨-, nothing⟩ | ⟨r, b, answered, born⟩
    · rw [nothing]
      exact ⟨rfl, nofun⟩
    · rw [answered]
      exact ⟨rfl, fun created h => (configs_of_base (born created h)).trans plain.symm⟩
  | observed x inner =>
    by_cases reported : ∃ made, x.treatment call = .reported made
    · obtain ⟨made, treated⟩ := reported
      obtain ⟨a, h, -⟩ := exists_account treated w
      obtain ⟨left, born⟩ := inner (a.made.under a.exit) a.asked
      have settled := x.configs_settled a.exit (a.made.under a.exit) a.asked
      rw [h.inside] at left born settled
      rw [h.outcome, configs_target]
      refine ⟨settled.trans (congrArg _ left), fun created observed => ?_⟩
      obtain ⟨created', answer, under⟩ := Response.configs_observed observed
      rw [under, born created' answer]
    · obtain ⟨r, v, answer, barren⟩ := Wrapper.perform_of_ne_reported (not_exists.mp reported) w
      rw [answer]
      refine ⟨rfl, fun created h => ?_⟩
      rw [barren] at h
      cases h

/-- At most one of the hooks is a tracing hook, whichever operations it leaves out. -/
def Configuration.TracesOnce (c : Configuration) : Prop :=
  (c.hooks.filterMap Hook.trace?).length ≤ 1

theorem Configuration.TracesOnce.length_tracers {c : Configuration} (h : c.TracesOnce)
    (op : Operation) : (Hook.tracers op c.hooks).length ≤ 1 :=
  Nat.le_trans (List.length_filter_le _ _) h

theorem Configuration.TracesOnce.tracers {c : Configuration} (h : c.TracesOnce) (op : Operation) :
    Hook.tracers op c.hooks = [] ∨ ∃ k, Hook.tracers op c.hooks = [k] := by
  have fewer := h.length_tracers op
  match tracing : Hook.tracers op c.hooks with
  | [] => exact .inl rfl
  | [k] => exact .inr ⟨k, rfl⟩
  | k :: k' :: ks =>
    rw [tracing] at fewer
    simp at fewer

def Account.spans (x : Wrapper σ) (a : Account σ) : List Span :=
  (Hook.tracers a.last.operation x.config.hooks).map fun k => k.finishedSpan a.entry.span a.last

namespace Account.Of

variable {a : Account σ} {x : Wrapper σ} {call : BaseCall} {w : World σ}

theorem started (h : a.Of x call w) (once : x.config.TracesOnce) :
    a.asked.telemetry.finished = w.telemetry.finished ∧
    a.asked.telemetry.spans = w.telemetry.spans ++
      (Hook.tracers a.made.operation x.config.hooks).map fun k =>
        k.span a.entry.span (x.event a.made) := by
  have few := once.length_tracers a.made.operation
  obtain ⟨spans, finished⟩ := x.config.before_chain a.entry (x.event a.made) w.telemetry
    fun several => absurd several (Nat.not_le_of_lt (Nat.lt_succ_of_le few))
  have operation : (x.event a.made).operation = a.made.operation := rfl
  rw [operation] at spans finished
  rw [h.asked_eq]
  rcases once.tracers a.made.operation with none | ⟨k, one⟩
  · rw [none] at spans finished ⊢
    exact ⟨finished.trans (List.append_nil _), spans⟩
  · rw [one] at spans finished ⊢
    exact ⟨finished.trans (List.append_nil _), spans⟩

theorem streams (h : a.Of x call w) (once : x.config.TracesOnce) {new : List Span}
    (inside : Streams new a.asked.telemetry a.answered.telemetry) :
    Streams (new ++ a.spans x) w.telemetry (x.target.perform call w).2.telemetry := by
  obtain ⟨finished, spans⟩ := h.started once
  have first : Streams [] w.telemetry a.asked.telemetry :=
    Telemetry.streams_of_started spans finished
  intro tidy
  refine (first.then (inside.trans ?_)) tidy
  rw [h.telemetry_perform]
  have ticked : Streams [] a.answered.telemetry a.answered.telemetry.tick.2 :=
    Telemetry.streams_of_same rfl rfl
  have handed : Streams [] (a.passed x) (x.settle a.exit a.response (a.passed x)) :=
    Telemetry.streams_exchange _ _ _
  refine ticked.then ?_
  rw [← List.append_nil (a.spans x)]
  refine Streams.trans ?_ handed
  rw [Account.spans, h.operation_last]
  rcases once.tracers a.made.operation with none | ⟨k, one⟩
  · rw [none]
    have still := Configuration.foldl_after_still (e := a.last) x.config.hooks a.exit
      a.answered.telemetry.tick.2 (.inl (h.operation_last ▸ none))
    exact Telemetry.streams_of_same still.1 still.2
  · rw [one] at spans ⊢
    -- The calls inside may start and end spans, but spare the one that is active here.
    have mine : w.telemetry.spans.length < a.asked.telemetry.spans.length := by
      rw [spans, List.length_append]
      exact Nat.lt_succ_self _
    have active : a.exit.span = some w.telemetry.spans.length := by
      rw [h.span_exit, one]
      rfl
    have foreign : ¬ x.inner.LastHolds a.asked.telemetry w.telemetry.spans.length := fun last =>
      Bool.false_ne_true ((h.isCallers_asked (Nat.le_refl _)).symm.trans last.callers)
    have found : a.answered.telemetry.tick.2.spans[w.telemetry.spans.length]? =
        some (k.span a.entry.span (x.event a.made)) := by
      have spared := (h.spares_inside.kept _ mine id).resolve_right fun lost => foreign lost.1
      rw [Telemetry.spans_tick, spared, spans]
      exact List.getElem?_concat_length
    have unended : w.telemetry.spans.length ∉ a.answered.telemetry.tick.2.finished := by
      obtain ⟨ids, ended, later⟩ := h.spares_inside.ended
      rw [Telemetry.finished_tick, ended, finished]
      intro member
      rcases List.mem_append.mp member with old | new
      · exact Nat.lt_irrefl _ (tidy _ old)
      · exact Nat.not_le_of_lt mine (((later _ new).resolve_left id).resolve_left foreign)
    have traced : Hook.tracers a.last.operation x.config.hooks ≠ [] := by
      rw [h.operation_last, one]
      exact List.cons_ne_nil _ _
    obtain ⟨spans', finished'⟩ := Configuration.foldl_after_settles (e := a.last) x.config.hooks
      a.exit a.answered.telemetry.tick.2 traced active found rfl
    have settled : (TraceHook.settle a.last (k.span a.entry.span (x.event a.made))).finish =
        k.finishedSpan a.entry.span a.last := by
      rw [← TraceHook.finish_settle_span, h.last_eq]
      rfl
    exact Telemetry.streams_of_finished found unended settled SpanOrigin.noConfusion spans'
      finished'

end Account.Of

/-- Where every configuration around a handle traces once, a call on it finishes the spans of the
calls that hooks are told of in its course. -/
theorem Target.Tells.streams {t : Target σ} {call : BaseCall} {w : World σ}
    {as : List (Wrapper σ × Account σ)} (tells : t.Tells call w as)
    (once : ∀ config ∈ t.configs, config.TracesOnce) :
    Streams (as.flatMap fun (x, a) => a.spans x) w.telemetry (t.perform call w).2.telemetry := by
  induction tells with
  | @base t id call w handle =>
    rcases perform_base handle call w with ⟨-, nothing⟩ | ⟨r, b, answered, -⟩
    · rw [nothing]
      exact .refl _
    · rw [answered]
      exact Telemetry.streams_of_same rfl (by simp [Effect.end?])
  | @untold x call w silent =>
    rcases telemetry_unreported silent w with same | ⟨-, id, closed⟩
    · rw [same]
      exact .refl _
    · rw [closed]
      exact Telemetry.streams_of_same rfl (by simp [Effect.end?])
  | @told x call w a inside account rest ih =>
    rw [configs_target] at once
    have stream := ih fun config member => once config (List.mem_cons_of_mem _ member)
    rw [account.inside] at stream
    -- What is called inside comes to its end first, so its spans stand before that of the call.
    have streams := account.streams (once _ List.mem_cons_self) stream
    simpa using streams

namespace Pool

def Wears (sort : Configuration → Prop) (p : Pool σ) : Prop :=
  ∀ t ∈ p.targets, ∀ config ∈ t.configs, sort config

theorem Wears.step {sort : Configuration → Prop} {p : Pool σ} (h : p.Wears sort) (turn : Turn σ)
    (connected : ∀ c : Conn σ, turn = .connected c → ∀ config ∈ c.configs, sort config) :
    (p.step turn).Wears sort := by
  cases turn with
  | elsewhere change => exact h
  | connected c =>
    intro t member
    rcases List.mem_append.mp member with old | new
    · exact h t old
    · obtain rfl := List.mem_singleton.mp new
      exact connected c rfl
  | call n call =>
    rw [Pool.step]
    cases found : p.targets[n]? with
    | none => exact h
    | some t =>
      have worn := h t (List.mem_of_getElem? found)
      obtain ⟨left, born⟩ := t.configs_perform call p.world
      intro t' member
      rcases mem_perform member with old | same | created
      · exact h t' old
      · rw [same, left]
        exact worn
      · rw [born t' created]
        exact worn

/-- The calls told of in a run finish their spans, those of one turn after those of the turns before
it. -/
theorem Tells.streams {p : Pool σ} {turns : List (Turn σ)} {as : List (Wrapper σ × Account σ)}
    (tells : p.Tells turns as) (once : p.Wears Configuration.TracesOnce)
    (connected : ∀ c : Conn σ, .connected c ∈ turns → ∀ config ∈ c.configs, config.TracesOnce)
    (elsewhere : ∀ change, .elsewhere change ∈ turns → ∀ v : World σ,
      Streams [] v.telemetry (change v).telemetry) :
    Streams (as.flatMap fun (x, a) => a.spans x) p.world.telemetry
      (p.run turns).world.telemetry := by
  induction tells with
  | nil p => exact .refl _
  | @quiet p turn turns as uncalled rest ih =>
    have later := ih (once.step turn fun c is_turn => connected c (is_turn ▸ List.mem_cons_self))
      (fun c member => connected c (List.mem_cons_of_mem turn member))
      (fun change member => elsewhere change (List.mem_cons_of_mem turn member))
    refine Streams.then ?_ later
    rcases step_uncalled uncalled with still | ⟨change, is_turn, changed⟩
    · rw [still]
      exact .refl _
    · rw [changed]
      exact elsewhere change (is_turn ▸ List.mem_cons_self) p.world
  | @call p n t call turns told as held tells enters rest ih =>
    have later := ih (once.step (.call n call) nofun)
      (fun c member => connected c (List.mem_cons_of_mem _ member))
      (fun change member => elsewhere change (List.mem_cons_of_mem _ member))
    have first := tells.streams (once t (List.mem_of_getElem? held))
    rw [List.flatMap_append]
    refine Streams.trans ?_ later
    rw [step_call held]
    exact first

theorem Sound.exists_tells {p : Pool σ} (sound : p.Sound)
    (once : p.Wears Configuration.TracesOnce) (turns : List (Turn σ))
    (connected : ∀ c : Conn σ, .connected c ∈ turns → ∀ config ∈ c.configs, config.TracesOnce)
    (elsewhere : ∀ change, .elsewhere change ∈ turns → ∀ v : World σ,
      Streams [] v.telemetry (change v).telemetry) :
    ∃ as, p.Tells turns as ∧ Streams (as.flatMap fun (x, a) => a.spans x) p.world.telemetry
      (p.run turns).world.telemetry := by
  obtain ⟨as, tells⟩ := sound.exists_told turns
  exact ⟨as, tells, tells.streams once connected elsewhere⟩

/-- In any run on handles whose hooks trace at most once, the finished spans of tracing hooks are
those of the calls that the hooks are told of, one for each that is traced, in the order in which
these come to their ends. -/
theorem run_spanStream (turns : List (Turn σ)) (w : World σ) (tidy : w.telemetry.Tidy)
    (connected : ∀ c : Conn σ, .connected c ∈ turns → ∀ config ∈ c.configs, config.TracesOnce)
    (elsewhere : ∀ change, .elsewhere change ∈ turns → ∀ v : World σ,
      Streams [] v.telemetry (change v).telemetry) :
    ∃ as, (fresh w).Tells turns as ∧
      ((fresh w).run turns).world.telemetry.traced =
        w.telemetry.traced ++ as.flatMap fun (x, a) =>
          (Hook.tracers a.last.operation x.config.hooks).map fun k =>
            k.finishedSpan a.entry.span a.last := by
  have unworn : (fresh w).Wears Configuration.TracesOnce := fun t member =>
    absurd member List.not_mem_nil
  obtain ⟨as, tells, stream⟩ := (sound_fresh w).exists_tells unworn turns connected elsewhere
  exact ⟨as, tells, (stream tidy).2⟩

/-- The span of a prepared statement's exec is a child of the span of the call that prepared it. -/
theorem run_spanStream_prepared :
    let base : Conn Bench := .base (Scripted.conn Bench.onFaults 0 (.standard .none))
    let config : Configuration := ⟨.sqlite, [.record "hook", .trace ⟨"scope", false, []⟩]⟩
    let w : World Bench := ⟨⟨[.none], []⟩, .empty, .empty⟩
    let turns : List (Turn Bench) :=
      [.connected (.observed config base), .call 0 (.prepare "SELECT"), .call 1 (.stmtExec [])]
    ∃ as, (fresh w).Tells turns as ∧
      (as.flatMap fun (x, a) => a.spans x).map Span.parent = [none, some 0] := by
  intro base config w turns
  have tidy : w.telemetry.Tidy := fun id member => absurd member List.not_mem_nil
  have connected : ∀ c : Conn Bench, .connected c ∈ turns →
      ∀ config ∈ c.configs, config.TracesOnce := by
    intro c member config' around
    obtain rfl : c = .observed config base := by simpa [turns] using member
    obtain rfl := List.mem_singleton.mp around
    exact Nat.le_refl 1
  have elsewhere : ∀ change, .elsewhere change ∈ turns → ∀ v : World Bench,
      Streams [] v.telemetry (change v).telemetry := by
    intro change member
    simp [turns] at member
  obtain ⟨as, tells, stream⟩ := run_spanStream turns w tidy connected elsewhere
  have parents : ((fresh w).run turns).world.telemetry.traced.map Span.parent = [none, some 0] := by
    decide +kernel
  exact ⟨as, tells, (congrArg (List.map Span.parent) stream).symm.trans parents⟩

end Pool
end DriverTelemetry
