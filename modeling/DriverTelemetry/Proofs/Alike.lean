import DriverTelemetry.FrontEnd
import DriverTelemetry.Proofs.Passes

/-!
# Runs that are alike

Two runs are alike when, wherever the base drivers start in one state, they give related answers,
make the same base calls up to the contexts handed over, and leave the base drivers in one state.
The telemetry and the ambient context are free to differ. Observing the calls of one of two runs
that are alike leaves them alike, since the hooks make no base call and hand the answer on.
-/
namespace DriverTelemetry

variable {σ α β γ δ ε : Type}

theorem Run.bind_apply (p : Run σ α) (f : α → Run σ β) (w : World σ) :
    (p >>= f) w = f (p w).1 (p w).2 := rfl

/-- Both succeed with related values, or both fail with one error. -/
inductive Agree (R : α → β → Prop) : Except ε α → Except ε β → Prop where
  | error (err : ε) : Agree R (.error err) (.error err)
  | ok {a : α} {b : β} (h : R a b) : Agree R (.ok a) (.ok b)

namespace Agree

theorem map {R : α → β → Prop} {S : γ → δ → Prop} {r : Except ε α} {r' : Except ε β}
    (h : Agree R r r') {f : α → γ} {g : β → δ} (hf : ∀ a b, R a b → S (f a) (g b)) :
    Agree S (r.map f) (r'.map g) := by
  cases h with
  | error err => exact .error err
  | ok h => exact .ok (hf _ _ h)

theorem mapError {ζ : Type} {R : α → β → Prop} {r : Except ε α} {r' : Except ε β}
    (h : Agree R r r') (f : ε → ζ) : Agree R (r.mapError f) (r'.mapError f) := by
  cases h with
  | error err => exact .error (f err)
  | ok h => exact .ok h

end Agree

/-- What a run that started in one world ended with, against what another did. -/
structure Matches (R : α → β → Prop) (w v : World σ) (p : α × World σ) (q : β × World σ) :
    Prop where
  answer : R p.1 q.1
  base : p.2.base = q.2.base
  calls : ∃ es fs, p.2.telemetry.effects = w.telemetry.effects ++ es ∧
    q.2.telemetry.effects = v.telemetry.effects ++ fs ∧
    Effect.plainCalls es = Effect.plainCalls fs

def Alike (R : α → β → Prop) (p : Run σ α) (q : Run σ β) : Prop :=
  ∀ w v : World σ, w.base = v.base → Matches R w v (p w) (q v)

namespace Alike

theorem pure {R : α → β → Prop} {a : α} {b : β} (h : R a b) :
    Alike (σ := σ) R (Pure.pure a) (Pure.pure b) := fun _ _ hb =>
  ⟨h, hb, [], [], (List.append_nil _).symm, (List.append_nil _).symm, rfl⟩

theorem bind {R : α → β → Prop} {S : γ → δ → Prop} {p : Run σ α} {q : Run σ β}
    {f : α → Run σ γ} {g : β → Run σ δ} (h : Alike R p q)
    (hf : ∀ a b, R a b → Alike S (f a) (g b)) : Alike S (p >>= f) (q >>= g) := by
  intro w v hb
  obtain ⟨answer, base, es, fs, he, hf', hc⟩ := h w v hb
  obtain ⟨answer', base', es', fs', he', hf'', hc'⟩ := hf _ _ answer _ _ base
  rw [Run.bind_apply, Run.bind_apply]
  refine ⟨answer', base', es ++ es', fs ++ fs', ?_, ?_, ?_⟩
  · rw [he', he, List.append_assoc]
  · rw [hf'', hf', List.append_assoc]
  · rw [Effect.plainCalls_append, Effect.plainCalls_append, hc, hc']

theorem mono {R S : α → β → Prop} {p : Run σ α} {q : Run σ β} (h : Alike R p q)
    (hs : ∀ a b, R a b → S a b) : Alike S p q := fun w v hb =>
  let ⟨answer, base, calls⟩ := h w v hb
  ⟨hs _ _ answer, base, calls⟩

theorem map {R : α → β → Prop} {S : γ → δ → Prop} {p : Run σ α} {q : Run σ β} {f : α → γ}
    {g : β → δ} (h : Alike R p q) (hf : ∀ a b, R a b → S (f a) (g b)) :
    Alike S (p >>= fun a => Pure.pure (f a)) (q >>= fun b => Pure.pure (g b)) :=
  h.bind fun a b hab => .pure (hf a b hab)

theorem mapLeft {R : α → β → Prop} {S : γ → β → Prop} {p : Run σ α} {q : Run σ β} {f : α → γ}
    (h : Alike R p q) (hf : ∀ a b, R a b → S (f a) b) :
    Alike S (p >>= fun a => Pure.pure (f a)) q := fun w v hb =>
  let ⟨answer, base, calls⟩ := h w v hb
  ⟨hf _ _ answer, base, calls⟩

theorem exchange {kept kept' givenUp givenUp' : List Context} :
    Alike (σ := σ) (fun _ _ => True) (World.exchange kept givenUp)
      (World.exchange kept' givenUp') := by
  intro w v hb
  obtain ⟨es, he, -, hc⟩ := (w.telemetry.adds_exchange kept givenUp).notes_calls
  obtain ⟨fs, hf, -, hc'⟩ := (v.telemetry.adds_exchange kept' givenUp').notes_calls
  refine ⟨trivial, hb, es, fs, he, hf, ?_⟩
  rw [Effect.plainCalls_of_calls hc, Effect.plainCalls_of_calls hc']

theorem exchangeLeft {R : α → β → Prop} {S : γ → β → Prop} {p : Run σ α} {q : Run σ β}
    {kept givenUp : α → List Context} {f : α → γ} (h : Alike R p q)
    (hf : ∀ a b, R a b → S (f a) b) :
    Alike S (p >>= fun a => World.exchange (kept a) (givenUp a) >>= fun _ => Pure.pure (f a))
      q := by
  intro w v hb
  obtain ⟨answer, base, es, fs, he, hf', hc⟩ := h w v hb
  obtain ⟨gs, hg, -, hc'⟩ :=
    ((p w).2.telemetry.adds_exchange (kept (p w).1) (givenUp (p w).1)).notes_calls
  refine ⟨hf _ _ answer, base, es ++ gs, fs, ?_, hf', ?_⟩
  · rw [← List.append_assoc, ← he]
    exact hg
  · rw [Effect.plainCalls_append, Effect.plainCalls_of_calls hc', List.append_nil, hc]

theorem ambient {R : α → β → Prop} {p : Context → Run σ α} {q : Run σ β}
    (h : ∀ ctx, Alike R (p ctx) q) : Alike R (World.ambientContext >>= p) q := fun w v hb =>
  h w.ambient w v hb

theorem log {records records' : List LogRecord} :
    Alike (σ := σ) (fun _ _ => True) (World.log records) (World.log records') := by
  intro w v hb
  refine ⟨trivial, hb, records.map .logged, records'.map .logged, rfl, rfl, ?_⟩
  rw [Effect.plainCalls_of_calls (Telemetry.calls_logged records),
    Effect.plainCalls_of_calls (Telemetry.calls_logged records')]

end Alike

/-- Some state of the driver makes the call give this answer. -/
def Call.Answers (m : Call σ α) (r : Result α) : Prop := ∃ s, (m.run s).1 = r

/-- The same method on the same driver, told of in calls that differ in contexts only. -/
theorem Alike.ask {id : BaseId} {call call' : BaseCall} {m m' : Call σ α}
    (hc : call.withoutContext = call'.withoutContext) (hm : m = m') :
    Alike (fun r r' => r = r' ∧ m.Answers r) (World.ask id call m) (World.ask id call' m') := by
  subst hm
  intro w v hb
  refine ⟨⟨?_, w.base, rfl⟩, ?_, [.called id call], [.called id call'], rfl, rfl, ?_⟩
  · exact congrArg (fun s => (m.run s).1) hb
  · exact congrArg (fun s => (m.run s).2) hb
  · simp [Effect.plainCalls, Effect.calls, Effect.call?, hc]

theorem Alike.askEq {id : BaseId} {call call' : BaseCall} {m m' : Call σ α}
    (hc : call.withoutContext = call'.withoutContext) (hm : m = m') :
    Alike Eq (World.ask id call m) (World.ask id call' m') :=
  (Alike.ask hc hm).mono fun _ _ h => h.1

theorem Alike.askAs {id : BaseId} {call call' : BaseCall} {m m' : Call σ α} {f : α → β}
    {R : β → β → Prop} (hc : call.withoutContext = call'.withoutContext) (hm : m = m')
    (hf : ∀ a, m.Answers (.ok a) → R (f a) (f a)) :
    Alike (Agree R) (do let r ← World.ask id call m; return r.map f)
      (do let r ← World.ask id call' m'; return r.map f) := by
  refine (Alike.ask hc hm).map fun r r' ⟨same, answers⟩ => ?_
  subst same
  cases r with
  | error err => exact .error err
  | ok a => exact .ok (hf a answers)

/-- Hooks around a call keep it alike to what it was alike to without them. -/
theorem Alike.observe {R : α → β → Prop} {config : Configuration} {ctx : Context} {event : Event}
    {call : Context → Run σ α} {verdict : α → Verdict} {q : Run σ β}
    (h : ∀ ctx, Alike R (call ctx) q) :
    Alike (fun a b => R a.2 b) (DriverTelemetry.observe config ctx event call verdict) q := by
  intro w v hb
  let first := config.before ctx event w.telemetry
  let asked : World σ := { w with telemetry := first.2.tick.2 }
  obtain ⟨answer, base, es, fs, he, hf, hc⟩ := h first.1 asked v hb
  obtain ⟨vs, -, handed⟩ := config.before_visits ctx event w.telemetry
  obtain ⟨bs, hbs, -, hbc⟩ := Configuration.notes_calls_before handed
  let answered := call first.1 asked
  obtain ⟨as, has, -, hac⟩ := config.notes_calls_after first.1 (((event.start first.2.tick.1).stop
    answered.2.telemetry.tick.1).settle (verdict answered.1)) answered.2.telemetry.tick.2
  refine ⟨answer, base, bs ++ es ++ as, fs, ?_, hf, ?_⟩
  · have asked_effects : asked.telemetry.effects = w.telemetry.effects ++ bs := hbs
    have answered_effects :
        answered.2.telemetry.tick.2.effects = asked.telemetry.effects ++ es := he
    refine has.trans ?_
    rw [answered_effects, asked_effects]
    simp only [List.append_assoc]
  · simp [Effect.plainCalls_of_calls hbc, Effect.plainCalls_of_calls hac, hc]

end DriverTelemetry
