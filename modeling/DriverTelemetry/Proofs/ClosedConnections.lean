import DriverTelemetry.Proofs.EmbeddedHandles

/-!
# Closed connections

A connection that has been closed once, through any of its handles, stays closed: nothing that can
be done with the handles of embedded connections opens it again. So all its handles keep answering
as those of a closed connection, and the other connections keep their databases.
-/
namespace DriverTelemetry

variable {σ δ : Type} [Embedded.Engine δ]

namespace Pool

open Embedded

def AllEmbedded (part : {α : Type} → Call (Databases δ) α → Call σ α) (p : Pool σ) : Prop :=
  ∀ t ∈ p.targets, ∃ id system n, HandleOf part id system n t

variable {part : {α : Type} → Call (Databases δ) α → Call σ α} {view : σ → Databases δ}
  {p : Pool σ} {n : Nat}

/-- Only embedded connections are connected. -/
def Turn.Embeds (part : {α : Type} → Call (Databases δ) α → Call σ α) : Turn σ → Prop
  | .connected c => ∃ id system n, HandleOf part id system n (.conn c)
  | _ => True

/-- What happens elsewhere does not open connection `n` again. -/
def Turn.Spares (view : σ → Databases δ) (n : Nat) : Turn σ → Prop
  | .elsewhere change =>
    ∀ w : World σ, (view w.base).Closed n → (view (change w).base).Closed n
  | _ => True

def Turn.On (part : {α : Type} → Call (Databases δ) α → Call σ α) (n : Nat) (p : Pool σ)
    (turn : Turn σ) : Prop :=
  ∃ j call t id system, turn = .call j call ∧ p.targets[j]? = some t ∧
    HandleOf part id system n t

theorem AllEmbedded.step (within : Within part view) (all : p.AllEmbedded part) {turn : Turn σ}
    (embeds : turn.Embeds part) : (p.step turn).AllEmbedded part := by
  cases turn with
  | elsewhere change => exact all
  | connected c =>
    intro t member
    rcases List.mem_append.mp member with old | new
    · exact all t old
    · rw [List.mem_singleton.mp new]
      exact embeds
  | call j call =>
    cases held : p.targets[j]? with
    | none => simpa [Pool.step, held] using all
    | some s =>
      obtain ⟨id, system, m, handle⟩ := all s (List.mem_of_getElem? held)
      have kept := handle.keeps within call p.world
      rw [step_call held]
      intro t member
      rcases mem_perform member with old | rfl | created
      · exact all t old
      · exact ⟨id, system, m, kept.handle⟩
      · exact ⟨id, system, m, kept.created t created⟩

theorem AllEmbedded.run (within : Within part view) {turns : List (Turn σ)}
    (all : p.AllEmbedded part) (embeds : ∀ turn ∈ turns, turn.Embeds part) :
    (p.run turns).AllEmbedded part := by
  induction turns generalizing p with
  | nil => exact all
  | cons turn turns ih =>
    obtain ⟨first, later⟩ := List.forall_mem_cons.mp embeds
    exact ih (all.step within first) later

theorem kept_handle (within : Within part view) {t : Target σ} {id : BaseId}
    {system : DatabaseSystem} (s : Target σ) (call : BaseCall) (w : World σ)
    (h : HandleOf part id system n s ∧ s.takes = t.takes ∧ s.inputs = t.inputs) :
    HandleOf part id system n (s.perform call w).1.2 ∧
      (s.perform call w).1.2.takes = t.takes ∧ (s.perform call w).1.2.inputs = t.inputs := by
  obtain ⟨handle, sort, inputs⟩ := h
  have kept := handle.keeps within call w
  exact ⟨kept.handle, kept.sort.trans sort, kept.inputs.trans inputs⟩

theorem step_handle (within : Within part view) (turn : Turn σ) {j : Nat} {t : Target σ}
    {id : BaseId} {system : DatabaseSystem} (held : p.targets[j]? = some t)
    (handle : HandleOf part id system n t) :
    ∃ t', (p.step turn).targets[j]? = some t' ∧ HandleOf part id system n t' ∧
      t'.takes = t.takes ∧ t'.inputs = t.inputs :=
  step_keeps (kept_handle within) turn held ⟨handle, rfl, rfl⟩

theorem step_closed (within : Within part view) (all : p.AllEmbedded part) {turn : Turn σ}
    (spares : turn.Spares view n) (closed : (view p.world.base).Closed n) :
    (view (p.step turn).world.base).Closed n := by
  cases turn with
  | elsewhere change => exact spares p.world closed
  | connected c => exact closed
  | call j call =>
    cases held : p.targets[j]? with
    | none => simpa [Pool.step, held] using closed
    | some s =>
      obtain ⟨id, system, m, handle⟩ := all s (List.mem_of_getElem? held)
      have kept := handle.keeps within call p.world
      rw [step_call held]
      -- A handle of the closed connection reaches no database, and any other one not this database.
      by_cases same : n = m
      · subst same
        rw [Databases.Closed, show view (p.perform j s call).world.base = _ from
          (kept.closed closed).1]
        exact closed
      · exact (kept.others n same).trans closed

theorem run_handle (within : Within part view) (turns : List (Turn σ)) {j : Nat} {t : Target σ}
    {id : BaseId} {system : DatabaseSystem} (held : p.targets[j]? = some t)
    (handle : HandleOf part id system n t) :
    ∃ t', (p.run turns).targets[j]? = some t' ∧ HandleOf part id system n t' ∧
      t'.takes = t.takes ∧ t'.inputs = t.inputs :=
  run_keeps (kept_handle within) turns held ⟨handle, rfl, rfl⟩

theorem run_closed (within : Within part view) (all : p.AllEmbedded part) {turns : List (Turn σ)}
    (embeds : ∀ turn ∈ turns, turn.Embeds part) (spares : ∀ turn ∈ turns, turn.Spares view n)
    (closed : (view p.world.base).Closed n) : (view (p.run turns).world.base).Closed n := by
  induction turns generalizing p with
  | nil => exact closed
  | cons turn turns ih =>
    obtain ⟨embedded, later⟩ := List.forall_mem_cons.mp embeds
    obtain ⟨spared, later'⟩ := List.forall_mem_cons.mp spares
    exact ih (all.step within embedded) later later' (step_closed within all spared closed)

theorem Turn.On.step (within : Within part view) {turn : Turn σ} (on : turn.On part n p)
    (first : Turn σ) : turn.On part n (p.step first) := by
  obtain ⟨j, call, t, id, system, is_call, held, handle⟩ := on
  obtain ⟨t', held', handle', -, -⟩ := step_handle within first held handle
  exact ⟨j, call, t', id, system, is_call, held', handle'⟩

/-- Calls on the handles of a closed connection reach no database. -/
theorem run_untouched (within : Within part view) {turns : List (Turn σ)}
    (on : ∀ turn ∈ turns, turn.On part n p) (closed : (view p.world.base).Closed n) :
    view (p.run turns).world.base = view p.world.base := by
  induction turns generalizing p with
  | nil => rfl
  | cons turn turns ih =>
    obtain ⟨first, later⟩ := List.forall_mem_cons.mp on
    have others : ∀ turn' ∈ turns, turn'.On part n (p.step turn) :=
      fun turn' member => (later turn' member).step within turn
    obtain ⟨j, call, t, id, system, rfl, held, handle⟩ := first
    have still : view (p.step (.call j call)).world.base = view p.world.base := by
      rw [step_call held]
      exact ((handle.keeps within call p.world).closed closed).1
    exact (ih others (still ▸ closed)).trans still

/-- Once a connection has been closed through any of its handles, every handle of it that there is,
observed or not, answers every call as that of a closed connection, whatever calls come between; it
tells the same number of inputs, and no call on it reaches a database. The other connections keep
their databases, both in the close and in all calls on these handles after it. The handles of a
connection are closed under what calls on them create. -/
theorem run_closedConnection (within : Within part view) (w : World σ)
    (before after : List (Turn σ)) (embeds : ∀ turn ∈ before ++ after, turn.Embeds part) {i n : Nat}
    {c : Conn σ} {id : BaseId} {system : DatabaseSystem}
    (held : ((fresh w).run before).targets[i]? = some (.conn c))
    (handle : HandleOf part id system n (.conn c))
    (known : n < (view ((fresh w).run before).world.base).length)
    (spares : ∀ turn ∈ after, turn.Spares view n) :
    let p := (fresh w).run before
    let closed := p.step (.call i .close)
    let q := closed.run after
    (∀ k, k ≠ n → (view closed.world.base)[k]? = (view p.world.base)[k]?) ∧
    ((∀ turn ∈ after, turn.On part n p) → view q.world.base = view closed.world.base) ∧
    ∀ (j : Nat) (t : Target σ) (id : BaseId) (system : DatabaseSystem),
      p.targets[j]? = some t → HandleOf part id system n t →
      (∀ call v created, (t.perform call v).1.1.target? = some created →
        HandleOf part id system n created) ∧
      ∃ t', q.targets[j]? = some t' ∧ t'.inputs = t.inputs ∧ ∀ call,
        (t.takes call = true → (t'.perform call q.world).1.1 = call.afterClose system) ∧
        view (t'.perform call q.world).2.base = view q.world.base := by
  intro p closed q
  obtain ⟨earlier, later⟩ := List.forall_mem_append.mp embeds
  have all : p.AllEmbedded part := AllEmbedded.run within nofun earlier
  have kept := handle.keeps within .close p.world
  have step : closed = p.perform i (.conn c) .close := step_call held .close
  have shut : (view closed.world.base).Closed n := by
    rw [step]
    exact kept.closing rfl rfl known
  have still : closed.AllEmbedded part := by
    have close : (Turn.call i .close : Turn σ).Embeds part := trivial
    exact all.step within close
  have dead : (view q.world.base).Closed n := run_closed within still later spares shut
  refine ⟨?_, fun on => ?_, fun j t id system there handle => ⟨fun call v => ?_, ?_⟩⟩
  · rw [step]
    exact kept.others
  · exact run_untouched within (fun turn member => (on turn member).step within _) shut
  · exact (handle.keeps within call v).created
  · obtain ⟨s, there, handle, sort, inputs⟩ := step_handle within (.call i .close) there handle
    obtain ⟨t', there, handle, sort', inputs'⟩ := run_handle within after there handle
    refine ⟨t', there, inputs'.trans inputs, fun call => ?_⟩
    obtain ⟨still, answer⟩ := (handle.keeps within call q.world).closed dead
    exact ⟨fun taken => answer (by rw [sort', sort, taken]), still⟩

/-- A statement that was prepared through an observer before the connection itself was closed. -/
theorem run_closedConnection_prepared :
    let base : Conn Bench := .base (Embedded.conn Bench.onStore 0 .sqlite 0)
    let config : Configuration := ⟨.sqlite, [.record "hook"]⟩
    let w : World Bench := ⟨⟨[], [some Database.empty, some Database.empty]⟩, .empty, .empty⟩
    let before : List (Turn Bench) :=
      [.connected base, .connected (.observed config base), .call 1 (.prepare "SELECT ? AS a")]
    let after : List (Turn Bench) := [.call 2 (.stmtExec []), .call 0 .close, .call 2 .stmtClose]
    let q := (((fresh w).run before).step (.call 0 .close)).run after
    ∃ t', q.targets[2]? = some t' ∧ t'.inputs = some 1 ∧
      (t'.perform (.stmtQuery []) q.world).1.1 = .rows (.error .badConn) ∧
      (t'.perform (.stmtExecContext .empty [⟨some "a", 1, .null⟩]) q.world).1.1 =
        .summary (.error .namedParameters) := by
  intro base config w before after q
  have within : Within Bench.onStore Bench.store := ⟨fun _ _ => rfl, fun _ _ => rfl⟩
  have handle : HandleOf Bench.onStore 0 .sqlite 0 (.conn base) := .conn
  have embeds : ∀ turn ∈ before ++ after, turn.Embeds Bench.onStore := by
    have observed : HandleOf Bench.onStore 0 .sqlite 0 (.conn (.observed config base)) :=
      .observed (.conn config base) handle
    simp only [before, after, List.cons_append, List.nil_append, List.forall_mem_cons]
    exact ⟨⟨0, .sqlite, 0, handle⟩, ⟨0, .sqlite, 0, observed⟩, trivial, trivial, trivial, trivial,
      nofun⟩
  have spares : ∀ turn ∈ after, turn.Spares Bench.store 0 := by
    simp only [after, List.forall_mem_cons]
    exact ⟨trivial, trivial, trivial, nofun⟩
  let inside : Stmt Bench :=
    .base (Embedded.stmt Bench.onStore 0 .sqlite 0 "SELECT ? AS a" ⟨1, 1, ["a"]⟩)
  let x : Wrapper Bench := .stmt config "SELECT ? AS a" ⟨some 1, none⟩ inside
  have prepared : ((fresh w).run before).targets[2]? = some x.target := rfl
  obtain ⟨-, -, handles⟩ :=
    run_closedConnection within w before after embeds (i := 0) rfl handle (by decide) spares
  obtain ⟨-, t', there, inputs, answers⟩ :=
    handles 2 x.target 0 .sqlite prepared (.observed x (.stmt _ _))
  exact ⟨t', there, inputs, (answers (.stmtQuery [])).1 rfl, (answers (.stmtExecContext _ _)).1 rfl⟩

end Pool
end DriverTelemetry
