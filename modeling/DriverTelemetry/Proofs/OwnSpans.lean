import DriverTelemetry.Proofs.Marks
import DriverTelemetry.Proofs.Told
import DriverTelemetry.Proofs.TouchedSpans
import DriverTelemetry.Session.Bench

/-!
# Whose spans a call touches

A span is changed only in the two passes of the call that started it, so the spans of the program
around the calls and those of earlier calls, which contexts may still hold, stay as they are. There
is one exception: a statement or transaction gives up the context that it carried when it goes on
with another, and where nothing else keeps a context in which that span of the program around is
active, the span ends with it. It ends as it is: nothing is written into it.
-/
namespace DriverTelemetry

variable {σ : Type}

open Telemetry (Touches Spares)

namespace Target

/-- How many contexts the observers of a handle carry in which the span is active. -/
def carries (t : Target σ) (id : SpanId) : Nat := t.contexts.countP (Context.shows id)

/-- The span is one of the program around, and all contexts that are kept in which it is active are
carried by this handle. -/
structure LastHolds (t : Target σ) (now : Telemetry) (id : SpanId) : Prop where
  callers : now.isCallers id = true
  carried : 0 < t.carries id
  alone : now.holds.count id ≤ t.carries id

theorem contexts_of_base {t : Target σ} (h : t.baseId?.isSome = true) : t.contexts = [] := by
  match t, h with
  | .conn (.base c), _ => rfl
  | .stmt (.base s), _ => rfl
  | .tx (.base t), _ => rfl

theorem contexts_target (x : Wrapper σ) :
    x.target.contexts = x.carried?.toList ++ x.inner.contexts := by
  cases x <;> rfl

end Target

namespace Response

def contexts (r : Response σ) : List Context := r.target?.elim [] Target.contexts

def carries (r : Response σ) (id : SpanId) : Nat := r.contexts.countP (Context.shows id)

theorem contexts_of_base {r : Response σ}
    (born : ∀ created, r.target? = some created → created.baseId?.isSome = true) :
    r.contexts = [] := by
  unfold contexts
  cases found : r.target? with
  | none => rfl
  | some created => exact Target.contexts_of_base (born created found)

theorem contexts_observed (r : Response σ) (config : Configuration) (text : String)
    (ctx : Context) : (r.observed config text ctx).contexts =
      (if r.creates then [ctx] else []) ++ r.contexts := by
  match r with
  | .stmt (.ok s) => rfl
  | .tx (.ok t) => rfl
  | .stmt (.error _) | .tx (.error _) | .absent | .done _ | .summary _ | .rows _ => rfl

end Response

theorem Wrapper.contexts_settled (x : Wrapper σ) (ctx : Context) (call : BaseCall) (w : World σ) :
    (x.settled ctx (x.inner.perform call w).1.2).contexts =
      (x.carried?.toList.map fun _ => ctx) ++ (x.inner.perform call w).1.2.contexts := by
  cases x <;> rfl

namespace Account.Of

variable {a : Account σ} {x : Wrapper σ} {call : BaseCall} {w : World σ}

theorem operation_last (h : a.Of x call w) : a.last.operation = a.made.operation := by
  rw [h.last_eq]
  rfl

theorem length_asked (h : a.Of x call w) : a.asked.telemetry.spans.length =
    w.telemetry.spans.length + (Hook.tracers a.made.operation x.config.hooks).length := by
  rw [h.asked_eq]
  exact Configuration.length_beforeFrom a.entry (x.event a.made) x.config.hooks a.entry w.telemetry

theorem span_exit (h : a.Of x call w) : a.exit.span =
    if Hook.tracers a.made.operation x.config.hooks = [] then a.entry.span
    else some (w.telemetry.spans.length +
      (Hook.tracers a.made.operation x.config.hooks).length - 1) := by
  rw [h.exit_eq]
  exact Configuration.span_beforeFrom a.entry (x.event a.made) x.config.hooks a.entry w.telemetry

theorem active_own (h : a.Of x call w)
    (traced : Hook.tracers a.made.operation x.config.hooks ≠ []) (id : SpanId)
    (active : a.exit.span = some id) :
    w.telemetry.spans.length ≤ id ∧ id < a.asked.telemetry.spans.length := by
  have some_traces := List.length_pos_iff.mpr traced
  rw [h.span_exit, if_neg traced] at active
  obtain rfl := Option.some.inj active
  rw [h.length_asked]
  change _ ≤ _ + (Hook.tracers a.made.operation x.config.hooks).length - 1 ∧
    _ + (Hook.tracers a.made.operation x.config.hooks).length - 1 < _
  omega

theorem holds_asked (h : a.Of x call w) : a.asked.telemetry.holds = w.telemetry.holds := by
  rw [h.asked_eq]
  exact Configuration.holds_beforeFrom a.entry (x.event a.made) x.config.hooks a.entry w.telemetry

theorem isCallers_asked (h : a.Of x call w) {id : SpanId} (new : w.telemetry.spans.length ≤ id) :
    a.asked.telemetry.isCallers id = false := by
  rw [← Telemetry.isCallers_of_length_le new, h.asked_eq]
  exact Configuration.isCallers_beforeFrom a.entry (x.event a.made) x.config.hooks a.entry
    w.telemetry id

theorem holds_passed (_ : a.Of x call w) :
    (a.passed x).holds = a.answered.telemetry.holds :=
  x.config.holds_after a.exit a.last a.answered.telemetry.tick.2

section

variable (lost : SpanId → Prop)

theorem spares_before (h : a.Of x call w) : Spares lost w.telemetry a.asked.telemetry := by
  have touched : Touches (w.telemetry.spans.length ≤ ·) lost w.telemetry
      (x.config.before a.entry (x.event a.made) w.telemetry).2 :=
    Configuration.beforeFrom_touches a.entry (x.event a.made) x.config.hooks a.entry w.telemetry
      (Nat.le_refl _) (.inl rfl)
  rw [h.asked_eq]
  exact touched.spares.trans (Telemetry.touches_tick _ _ _)

theorem touches_passed (h : a.Of x call w) :
    Touches (fun id => w.telemetry.spans.length ≤ id ∧ id < a.asked.telemetry.spans.length) lost
        a.answered.telemetry (a.passed x) ∧
      (a.passed x).spans.length = a.answered.telemetry.spans.length := by
  obtain ⟨pass, length⟩ := x.config.after_touches a.exit a.last a.answered.telemetry.tick.2
    fun traced => h.active_own (h.operation_last ▸ traced)
  exact ⟨(Telemetry.touches_tick _ _ _).trans pass, length⟩

end

/-- What is kept and given up in a call on an observed handle, given what is in the call inside. -/
theorem holds_perform (h : a.Of x call w) {id : SpanId}
    (inside : a.asked.telemetry.holds.count id + a.left.carries id + a.response.carries id ≤
      a.answered.telemetry.holds.count id + x.inner.carries id) :
    w.telemetry.holds.count id + (x.settled a.exit a.left).carries id +
        (a.response.observed x.config a.made.text a.exit).carries id ≤
      (x.settle a.exit a.response (a.passed x)).holds.count id + x.target.carries id := by
  have handed := Telemetry.count_exchange
    ((x.carried?.toList.map fun _ => a.exit) ++ if a.response.creates then [a.exit] else [])
    x.carried?.toList (a.passed x) id
  have settled := x.contexts_settled a.exit (a.made.under a.exit) a.asked
  rw [h.inside] at settled
  rw [List.countP_append, h.holds_passed] at handed
  rw [h.holds_asked] at inside
  simp only [Target.carries, Response.carries, settled, Response.contexts_observed,
    Target.contexts_target, List.countP_append, Wrapper.settle] at inside ⊢
  omega

end Account.Of

namespace Target

/-- A call leaves as many contexts kept as the handle and what it creates carry from then on, but
for those that the handle carried before it. -/
theorem perform_holds (t : Target σ) (call : BaseCall) (w : World σ) (id : SpanId) :
    w.telemetry.holds.count id + (t.perform call w).1.2.carries id +
        (t.perform call w).1.1.carries id ≤
      (t.perform call w).2.telemetry.holds.count id + t.carries id := by
  induction t using Target.induct generalizing call w with
  | base t base handle =>
    rcases perform_base handle call w with ⟨-, nothing⟩ | ⟨r, b, answered, born⟩
    · rw [nothing]
      exact Nat.le_refl _
    · rw [answered, Response.carries, Response.contexts_of_base born]
      exact Nat.le_refl _
  | observed x inner =>
    by_cases silent : x.Unreported call
    · obtain ⟨r, v, answer, barren⟩ :=
        Wrapper.perform_of_ne_reported (Wrapper.not_reported silent) w
      have same : (x.target.perform call w).2.telemetry.holds = w.telemetry.holds := by
        rcases telemetry_unreported silent w with same | ⟨-, base, closed⟩
        · rw [same]
        · rw [closed, Telemetry.holds_emit]
      rw [same, answer, Response.carries, Response.contexts, barren]
      exact Nat.le_refl _
    · obtain ⟨made, treated⟩ := Wrapper.exists_reported silent
      obtain ⟨a, h, -⟩ := exists_account treated w
      have inside := inner (a.made.under a.exit) a.asked
      rw [h.inside] at inside
      rw [h.outcome]
      exact h.holds_perform inside

end Target

theorem Target.carries_target (x : Wrapper σ) (id : SpanId) : x.target.carries id =
    x.carried?.toList.countP (Context.shows id) + x.inner.carries id := by
  rw [carries, contexts_target, List.countP_append, carries]

namespace Account.Of

variable {a : Account σ} {x : Wrapper σ} {call : BaseCall} {w : World σ}

/-- What the handle gives up, and nothing else, may be lost as contexts are handed over. -/
theorem spares_settle (_ : a.Of x call w) : Spares (fun id => (a.passed x).isCallers id = true ∧
      0 < x.carried?.toList.countP (Context.shows id) ∧
      (a.passed x).holds.count id ≤ x.carried?.toList.countP (Context.shows id))
    (a.passed x) (x.settle a.exit a.response (a.passed x)) := by
  refine (Telemetry.spares_exchange _ _ _).mono (fun _ => id) fun id ⟨callers, given, few⟩ => ?_
  exact .inr ⟨callers, given, by omega⟩

theorem lastHolds_settle (h : a.Of x call w) : Spares (x.target.LastHolds (a.passed x))
    (a.passed x) (x.settle a.exit a.response (a.passed x)) := by
  refine h.spares_settle.mono (fun _ => id) fun id ⟨callers, given, few⟩ => .inr ⟨callers, ?_, ?_⟩
  · rw [Target.carries_target]
    omega
  · rw [Target.carries_target]
    omega

/-- Where the call inside loses no spans but those that the handle inside was the last to hold, the
call around it loses none but those that its handle was the last to hold. -/
theorem spares (h : a.Of x call w)
    (inside : Spares (x.inner.LastHolds a.asked.telemetry) a.asked.telemetry
      a.answered.telemetry) :
    Spares (x.target.LastHolds w.telemetry) w.telemetry
      (x.target.perform call w).2.telemetry := by
  let lost := x.target.LastHolds w.telemetry
  have asked : Touches (w.telemetry.spans.length ≤ ·) lost w.telemetry a.asked.telemetry :=
    (h.spares_before lost).touches
  -- What is new is the call's own here, so that the pass after it may change it.
  have answered : Touches (w.telemetry.spans.length ≤ ·) lost w.telemetry
      a.answered.telemetry := by
    refine asked.trans_of inside.touches fun id old holds => .inr ⟨?_, ?_, ?_⟩
    · rw [← (h.spares_before lost).isCallers old False.elim]
      exact holds.callers
    · rw [Target.carries_target]
      exact Nat.add_pos_right _ holds.carried
    · rw [Target.carries_target, ← h.holds_asked]
      exact Nat.le_add_left_of_le holds.alone
  have passed := answered.trans
    ((h.touches_passed lost).1.mono (fun _ mine => mine.1) fun _ => .inr)
  -- The contexts that the handle inside kept are counted as its own before and after the call, so
  -- what the settling gives up was among those that the handle around it carried.
  have kept (id : SpanId) := x.inner.perform_holds (a.made.under a.exit) a.asked id
  rw [h.inside, h.holds_asked] at kept
  have settled := passed.trans_of h.spares_settle.touches fun id old ⟨callers, given, few⟩ => by
    have inner := kept id
    rw [passed.isCallers old (Nat.not_le_of_lt old)] at callers
    rw [h.holds_passed] at few
    refine .inr ⟨callers, ?_, ?_⟩
    · rw [Target.carries_target]
      omega
    · rw [Target.carries_target]
      dsimp only at inner
      omega
  rw [h.telemetry_perform]
  exact settled.spares

end Account.Of

/-- However many observers a handle has, a call on it spares all spans that were there, but that
those end that the handle was the last to hold. -/
theorem Target.perform_spares (t : Target σ) (call : BaseCall) (w : World σ) :
    Spares (t.LastHolds w.telemetry) w.telemetry (t.perform call w).2.telemetry := by
  induction t using Target.induct generalizing call w with
  | base t id handle =>
    rcases perform_base handle call w with ⟨-, nothing⟩ | ⟨r, b, answered, -⟩
    · rw [nothing]
      exact .refl _ _ _
    · rw [answered]
      exact Telemetry.touches_of_same rfl (by simp [Effect.end?])
  | observed x inner =>
    by_cases silent : x.Unreported call
    · rcases telemetry_unreported silent w with same | ⟨-, id, closed⟩
      · rw [same]
        exact .refl _ _ _
      · rw [closed]
        exact Telemetry.touches_of_same rfl (by simp [Effect.end?])
    · obtain ⟨made, treated⟩ := Wrapper.exists_reported silent
      obtain ⟨a, h, -⟩ := exists_account treated w
      have inside := inner (a.made.under a.exit) a.asked
      rw [h.inside] at inside
      exact h.spares inside

theorem Account.Of.spares_inside {a : Account σ} {x : Wrapper σ} {call : BaseCall} {w : World σ}
    (h : a.Of x call w) : Spares (x.inner.LastHolds a.asked.telemetry) a.asked.telemetry
      a.answered.telemetry := by
  have inside := x.inner.perform_spares (a.made.under a.exit) a.asked
  rw [h.inside] at inside
  exact inside

private theorem countP_flatMap_set {α β : Type} {l : List α} {n : Nat} {a : α} (f : α → List β)
    (test : β → Bool) (b : α) (found : l[n]? = some a) :
    ((l.set n b).flatMap f).countP test + (f a).countP test =
      (l.flatMap f).countP test + (f b).countP test := by
  induction l generalizing n with
  | nil => cases found
  | cons c l ih =>
    cases n with
    | zero =>
      obtain rfl := Option.some.inj found
      simp only [List.set_cons_zero, List.flatMap_cons, List.countP_append]
      omega
    | succ n =>
      have rest := ih found
      simp only [List.set_cons_succ, List.flatMap_cons, List.countP_append]
      omega

namespace Pool

/-- How many contexts the observers of all handles carry in which the span is active. -/
def carries (p : Pool σ) (id : SpanId) : Nat :=
  (p.targets.flatMap Target.contexts).countP (Context.shows id)

theorem carries_le {p : Pool σ} {n : Nat} {t : Target σ} (held : p.targets[n]? = some t)
    (id : SpanId) : t.carries id ≤ p.carries id := by
  have inside : t.contexts ∈ p.targets.map Target.contexts :=
    List.mem_map_of_mem (List.mem_of_getElem? held)
  exact (List.sublist_flatten_of_mem inside).countP_le

theorem carries_perform {p : Pool σ} {n : Nat} {t : Target σ} (held : p.targets[n]? = some t)
    (call : BaseCall) (id : SpanId) : (p.perform n t call).carries id + t.carries id =
      p.carries id + (t.perform call p.world).1.2.carries id +
        (t.perform call p.world).1.1.carries id := by
  have replaced := countP_flatMap_set Target.contexts (Context.shows id)
    (t.perform call p.world).1.2 held
  have created : ((t.perform call p.world).1.1.target?.toList.flatMap Target.contexts).countP
      (Context.shows id) = (t.perform call p.world).1.1.carries id := by
    unfold Response.carries Response.contexts
    cases (t.perform call p.world).1.1.target? with
    | none => rfl
    | some created => simp
  have targets : (p.perform n t call).targets = p.targets.set n (t.perform call p.world).1.2 ++
      (t.perform call p.world).1.1.target?.toList := rfl
  rw [carries, carries, targets, List.flatMap_append, List.countP_append, created]
  unfold Target.carries
  omega

/-- The program around keeps a context in which the span is active. -/
def Keeps (p : Pool σ) (id : SpanId) : Prop :=
  p.carries id < p.world.telemetry.holds.count id

theorem Keeps.step {p : Pool σ} {id : SpanId} (keeps : p.Keeps id) (turn : Turn σ)
    (elsewhere : ∀ change, turn = .elsewhere change →
      p.world.telemetry.holds.count id ≤ (change p.world).telemetry.holds.count id) :
    (p.step turn).Keeps id := by
  cases turn with
  | elsewhere change => exact Nat.lt_of_lt_of_le keeps (elsewhere change rfl)
  | connected c =>
    unfold Keeps carries at *
    simpa [Pool.step, Target.carries, Target.contexts] using keeps
  | call n call =>
    cases held : p.targets[n]? with
    | none => simpa [Pool.step, held] using keeps
    | some t =>
      have carried := carries_perform held call id
      have kept := t.perform_holds call p.world id
      have left : (p.perform n t call).world = (t.perform call p.world).2 := rfl
      rw [step_call held, Keeps, left]
      unfold Keeps at keeps
      omega

variable {own kept : SpanId → Prop}

theorem step_touches {p : Pool σ} (keeps : ∀ id, kept id → p.Keeps id) (turn : Turn σ)
    (elsewhere : ∀ change, turn = .elsewhere change →
      Touches own (fun _ => False) p.world.telemetry (change p.world).telemetry) :
    Touches own (fun id => p.world.telemetry.isCallers id = true ∧ ¬ kept id) p.world.telemetry
      (p.step turn).world.telemetry := by
  cases turn with
  | elsewhere change => exact (elsewhere change rfl).mono (fun _ => id) fun _ => False.elim
  | connected c => exact .refl _ _ _
  | call n call =>
    rw [Pool.step]
    cases held : p.targets[n]? with
    | none => exact .refl _ _ _
    | some t =>
      refine (t.perform_spares call p.world).mono (fun _ => False.elim) fun id last => ?_
      have carried := carries_le held id
      refine .inr ⟨last.callers, fun wanted => ?_⟩
      exact Nat.not_le_of_lt (keeps id wanted) (Nat.le_trans last.alone carried)

theorem run_touches (turns : List (Turn σ)) {p : Pool σ} (keeps : ∀ id, kept id → p.Keeps id)
    (elsewhere : ∀ change, .elsewhere change ∈ turns → ∀ v : World σ,
      Touches own (fun _ => False) v.telemetry (change v).telemetry ∧
        ∀ id, kept id → v.telemetry.holds.count id ≤ (change v).telemetry.holds.count id) :
    Touches own (fun id => p.world.telemetry.isCallers id = true ∧ ¬ kept id) p.world.telemetry
      (p.run turns).world.telemetry := by
  induction turns generalizing p with
  | nil => exact .refl _ _ _
  | cons turn turns ih =>
    have now {change} (is_turn : turn = .elsewhere change) :=
      elsewhere change (is_turn ▸ List.mem_cons_self) p.world
    have first := step_touches keeps turn fun change is_turn => (now is_turn).1
    have still : ∀ id, kept id → (p.step turn).Keeps id := fun id wanted =>
      (keeps id wanted).step turn fun change is_turn => (now is_turn).2 id wanted
    have rest := ih still fun change later =>
      elsewhere change (List.mem_cons_of_mem turn later)
    refine first.trans_of rest fun id old ⟨callers, given⟩ => ?_
    by_cases mine : own id
    · exact .inl mine
    · exact .inr ⟨first.isCallers old mine ▸ callers, given⟩

end Pool

/-- No call changes a span that was there before it, and it ends none but those of the program
around of which its handle, and nothing else, kept a context. So a run of calls changes no spans but
those that the program around the calls changes, and of the others it ends at most such of the
program around of which that does not keep a context all along. Of the spans that a reported call
starts itself, one for each hook that traces it and none of the program around, none changes or ends
while the call inside runs, the pass after the call touches no others, and where the context then
replaces another one, no more is lost than the span of that. -/
theorem perform_ownSpans :
    (∀ (t : Target σ) (call : BaseCall) (w : World σ),
      Spares (t.LastHolds w.telemetry) w.telemetry (t.perform call w).2.telemetry) ∧
    (∀ (p : Pool σ) (turns : List (Pool.Turn σ)) (own kept : SpanId → Prop),
      (∀ id, kept id → p.Keeps id) →
      (∀ change, .elsewhere change ∈ turns → ∀ v : World σ,
        Touches own (fun _ => False) v.telemetry (change v).telemetry ∧
          ∀ id, kept id → v.telemetry.holds.count id ≤ (change v).telemetry.holds.count id) →
      Touches own (fun id => p.world.telemetry.isCallers id = true ∧ ¬ kept id) p.world.telemetry
        (p.run turns).world.telemetry) ∧
    ∀ (x : Wrapper σ) (call : BaseCall) (w : World σ), ¬ x.Unreported call →
      ∃ a : Account σ, a.Of x call w ∧
        let done := (x.target.perform call w).2.telemetry
        let started := fun id =>
          w.telemetry.spans.length ≤ id ∧ id < a.asked.telemetry.spans.length
        a.asked.telemetry.spans.length =
          w.telemetry.spans.length + (Hook.tracers a.made.operation x.config.hooks).length ∧
        (∀ id, started id → a.asked.telemetry.isCallers id = false) ∧
        Spares (fun _ => False) w.telemetry a.asked.telemetry ∧
        Spares (x.inner.LastHolds a.asked.telemetry) a.asked.telemetry a.answered.telemetry ∧
        Touches started (fun _ => False) a.answered.telemetry (a.passed x) ∧
        Spares (x.target.LastHolds (a.passed x)) (a.passed x) done ∧
        done.spans.length = a.answered.telemetry.spans.length := by
  refine ⟨Target.perform_spares, fun p turns own kept => Pool.run_touches turns, ?_⟩
  intro x call w told
  obtain ⟨made, treated⟩ := Wrapper.exists_reported told
  obtain ⟨a, h, -⟩ := exists_account treated w
  obtain ⟨touched, length⟩ := h.touches_passed fun _ => False
  refine ⟨a, h, h.length_asked, fun id new => h.isCallers_asked new.1, h.spares_before _,
    h.spares_inside, touched, ?_, ?_⟩
  · rw [h.telemetry_perform]
    exact h.lastHolds_settle
  · rw [h.telemetry_perform, ← length]
    exact Telemetry.length_exchange _ _ _

/-- A span that the program around goes on to hold outlives the statement's going on with another
context. -/
theorem perform_ownSpans_kept :
    let base : Conn Bench := .base (Scripted.conn Bench.onFaults 0 (.standard .none))
    let config : Configuration := ⟨.sqlite, [.trace ⟨"scope", false, [.connPrepare]⟩]⟩
    let started := Telemetry.empty.callerContext none true
    let w : World Bench := ⟨⟨[.none], []⟩, started.2, .empty⟩
    let turns : List (Pool.Turn Bench) := [.connected (.observed config base),
      .call 0 (.prepareContext started.1 "SELECT"), .call 1 (.stmtExecContext .empty [])]
    ((Pool.fresh w).run turns).world.telemetry.spans[0]? = w.telemetry.spans[0]? := by
  intro base config started w turns
  have keeps : ∀ id, id = 0 → (Pool.fresh w).Keeps id := by
    rintro id rfl
    exact Nat.zero_lt_one
  have touched := perform_ownSpans.2.1 (Pool.fresh w) turns (fun _ => False) (· = 0) keeps (by
    intro change member
    simp [turns] at member)
  exact (touched.kept 0 Nat.zero_lt_one id).resolve_right fun lost => lost.1.2 rfl

/-- The caller gives up the context under which a statement was prepared while the hook left the
operation out, and so leaves the statement as the last to keep it. The next call on the statement,
under another context, then ends the caller's span, after its own. -/
theorem Pool.ended_with_last_context :
    let base : Conn Bench := .base (Scripted.conn Bench.onFaults 0 (.standard .none))
    let config : Configuration := ⟨.sqlite, [.trace ⟨"scope", false, [.connPrepare]⟩]⟩
    let started := Telemetry.empty.callerContext none true
    let w : World Bench := ⟨⟨[.none], []⟩, started.2, .empty⟩
    let p := (fresh w).run [.connected (.observed config base),
      .call 0 (.prepareContext started.1 "SELECT"),
      .elsewhere fun v => { v with telemetry := v.telemetry.letGo started.1 }]
    p.world.telemetry.finished = [] ∧
      (p.step (.call 1 (.stmtExecContext .empty []))).world.telemetry.finished = [1, 0] := by
  decide +kernel

end DriverTelemetry
