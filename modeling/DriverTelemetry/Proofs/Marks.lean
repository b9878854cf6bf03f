import DriverTelemetry.Proofs.Course
import DriverTelemetry.Proofs.Unreported

/-!
# One event for each call

A call on an observed handle is told to every recording hook twice, before and after the one call
that is made inside, or to none of them.
-/
namespace DriverTelemetry

variable {σ : Type}

/-- What a note says of an operation: which hook saw it, and on which side of the call. -/
def Note.mark (n : Note) : String × Phase × Operation := (n.hook, n.phase, n.event.operation)

def Effect.marks (es : List Effect) : List (String × Phase × Operation) :=
  (Effect.notes es).map Note.mark

def Hook.marks (phase : Phase) (op : Operation) : Hook → List (String × Phase × Operation)
  | .record name => [(name, phase, op)]
  | _ => []

def Configuration.marks (c : Configuration) (phase : Phase) (op : Operation) :
    List (String × Phase × Operation) := c.hooks.flatMap (Hook.marks phase op)

theorem Hook.map_mark_notes (h : Hook) (phase : Phase) (ctx : Context) (e : Event) :
    (h.notes phase ctx e).map Note.mark = h.marks phase e.operation := by
  cases h <;> rfl

namespace Account.Of

variable {a : Account σ} {x : Wrapper σ} {call : BaseCall} {w : World σ}

theorem map_mark_before (h : a.Of x call w) :
    (a.visits.flatMap fun v => v.hook.notes .before v.handed (x.event a.made)).map Note.mark =
      x.config.marks .before a.made.operation := by
  rw [Configuration.marks, ← h.hooks, List.flatMap_map, List.map_flatMap]
  exact congrArg (List.flatMap · a.visits)
    (funext fun v => v.hook.map_mark_notes .before v.handed (x.event a.made))

theorem map_mark_after (h : a.Of x call w) :
    (x.config.hooks.flatMap fun k => k.notes .after a.exit a.last).map Note.mark =
      x.config.marks .after a.made.operation := by
  have same : a.last.operation = a.made.operation := by
    rw [h.last_eq]
    rfl
  rw [Configuration.marks, List.map_flatMap, ← same]
  exact congrArg (List.flatMap · x.config.hooks)
    (funext fun k => k.map_mark_notes .after a.exit a.last)

end Account.Of

/-- However many observers a statement has, its closing is one base call. -/
theorem telemetry_stmtClose (s : Stmt σ) (w : World σ) :
    ∃ id, ((Target.stmt s).perform .stmtClose w).2.telemetry =
      w.telemetry.emit (.called id .stmtClose) := by
  induction s with
  | base s => exact ⟨s.id, rfl⟩
  | observed config text carried inner ih => exact ih

/-- A call that is not reported leaves no trace, unless it is the closing of a statement. -/
theorem telemetry_unreported {x : Wrapper σ} {call : BaseCall} (h : x.Unreported call)
    (w : World σ) :
    (x.target.perform call w).2.telemetry = w.telemetry ∨ (call = .stmtClose ∧
      ∃ id, (x.target.perform call w).2.telemetry = w.telemetry.emit (.called id .stmtClose)) := by
  cases treated : x.treatment call with
  | silent r =>
    rw [Wrapper.perform_eq, treated]
    exact .inl rfl
  | passed =>
    obtain rfl := Wrapper.treatment_passed treated
    cases x with
    | conn config inner => cases treated
    | stmt config text carried inner =>
      exact .inr ⟨rfl, telemetry_stmtClose (.observed config text carried inner) w⟩
    | tx config carried inner => cases treated
  | reported made => exact absurd treated (Wrapper.not_reported h made)

theorem effects_unreported {x : Wrapper σ} {call : BaseCall} (h : x.Unreported call)
    (w : World σ) :
    ∃ es, (x.target.perform call w).2.telemetry.effects = w.telemetry.effects ++ es ∧
      Effect.marks es = [] ∧ (call ≠ .stmtClose → es = []) := by
  rcases telemetry_unreported h w with same | ⟨rfl, id, closed⟩
  · exact ⟨[], by rw [same, List.append_nil], rfl, fun _ => rfl⟩
  · exact ⟨[.called id .stmtClose], by rw [closed]; rfl, rfl, fun other => absurd rfl other⟩

/-- The hooks note nothing of a call or one balanced block around the only call inside, all of it
under the operation of that call: the call itself where it is offered inside, else its legacy
form. -/
theorem perform_marks (x : Wrapper σ) (call : BaseCall) (w : World σ) :
    ∃ es, (x.target.perform call w).2.telemetry.effects = w.telemetry.effects ++ es ∧
      (x.Unreported call → Effect.marks es = [] ∧ (call ≠ .stmtClose → es = [])) ∧
      (¬ x.Unreported call → ∃ made exit asked bs ms as,
        (if x.inner.accepts call then made = call else call.legacy? = some (.ok made)) ∧
        es = bs ++ ms ++ as ∧
        Effect.marks bs = x.config.marks .before made.operation ∧ Effect.calls bs = [] ∧
        Effect.marks as = x.config.marks .after made.operation ∧ Effect.calls as = [] ∧
        (x.inner.perform (made.under exit) asked).2.telemetry.effects =
          asked.telemetry.effects ++ ms ∧
        ∀ id, x.inner.baseId? = some id → ms = [.called id (made.under exit)]) := by
  by_cases silent : x.Unreported call
  · obtain ⟨es, he, unmarked, nothing⟩ := effects_unreported silent w
    exact ⟨es, he, fun _ => ⟨unmarked, nothing⟩, fun reported => absurd silent reported⟩
  · obtain ⟨made, treated⟩ := Wrapper.exists_reported silent
    obtain ⟨a, h, rfl⟩ := exists_account treated w
    obtain ⟨bs, ms, as, he, noted, uncalled, inside, noted', uncalled'⟩ := h.effects
    refine ⟨bs ++ ms ++ as, he, fun unreported => absurd unreported silent, fun _ => ?_⟩
    refine ⟨a.made, a.exit, a.asked, bs, ms, as, Wrapper.made_of_reported treated, rfl, ?_,
      uncalled, ?_, uncalled', ?_, ?_⟩
    · rw [Effect.marks, noted, h.map_mark_before]
    · rw [Effect.marks, noted', h.map_mark_after]
    · rw [h.inside]
      exact inside
    · intro id base
      rw [h.answered_base base] at inside
      exact (List.append_cancel_left inside).symm

end DriverTelemetry
