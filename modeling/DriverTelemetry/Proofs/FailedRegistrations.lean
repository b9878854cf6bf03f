import DriverTelemetry.Proofs.Registration

/-!
# Registrations that fail

A name that is new to a registrar is registered unless it has one of three faults: it stands for no
system, the factory makes no driver for its system, or the native table has a driver under the name
it is to be bound to. The faults are looked for in this order, and the first of them is the answer.
A registration that fails leaves the process as it is, except that the factory may have run once
more; so whatever happens after it, the name is judged anew by the same rule until a registration of
it succeeds.
-/
namespace DriverTelemetry

variable {σ : Type}

namespace Registrar

/-- How the registration of a new name is to be answered: with the first of its faults, or with the
name that it is bound to. -/
structure Judges (r : Registrar σ) (natives : NativeTable σ) (name : String) (hooks : List Hook)
    (answer : Except RegistrationError String) : Prop where
  unsupported : DatabaseSystem.ofDriverName name = .unknown →
    answer = .error (.unsupportedSystem name)
  refused : DatabaseSystem.ofDriverName name ≠ .unknown → ∀ err,
    r.factory.make r.factory.runs (.ofDriverName name) hooks = .error err → answer = .error err
  taken : DatabaseSystem.ofDriverName name ≠ .unknown → ∀ d,
    r.factory.make r.factory.runs (.ofDriverName name) hooks = .ok d →
    natives.contains (r.stem ++ "-" ++ name) = true →
    answer = .error (.native (.duplicateDriver (r.stem ++ "-" ++ name)))
  bound : DatabaseSystem.ofDriverName name ≠ .unknown → ∀ d,
    r.factory.make r.factory.runs (.ofDriverName name) hooks = .ok d →
    natives.contains (r.stem ++ "-" ++ name) = false → answer = .ok (r.stem ++ "-" ++ name)

namespace Registers

variable {r : Registrar σ} {natives : NativeTable σ} {name : String} {hooks : List Hook}
  {done : Registration σ}

theorem judges (h : r.Registers natives name hooks done)
    (new : r.registry.contains (r.registrationName name) = false) :
    r.Judges natives name hooks done.answer := by
  cases h with
  | known old =>
    rw [new] at old
    cases old
  | unsupported _ system => exact ⟨fun _ => rfl, absurd system, absurd system, absurd system⟩
  | refused _ system made =>
    refine ⟨fun none => absurd none system, fun _ err made' => ?_, fun _ d made' => ?_,
      fun _ d made' => ?_⟩
    all_goals rw [made] at made'; cases made'
    rfl
  | taken _ system made bound =>
    refine ⟨fun none => absurd none system, fun _ err made' => ?_, fun _ _ _ _ => rfl,
      fun _ d _ free => ?_⟩
    · rw [made] at made'
      cases made'
    · rw [registrationName, free] at bound
      cases bound
  | bound binds =>
    refine ⟨fun none => absurd none binds.system, fun _ err made => ?_, fun _ d _ taken => ?_,
      fun _ _ _ _ => rfl⟩
    · rw [binds.made] at made
      cases made
    · have free := binds.free
      rw [registrationName, taken] at free
      cases free

theorem of_error (h : r.Registers natives name hooks done) {err : RegistrationError}
    (failed : done.answer = .error err) :
    done.natives = natives ∧ done.logs = [] ∧ (done.registrar = r ∨ done.registrar = r.worked) := by
  cases h with
  | known old => cases failed
  | unsupported _ system => exact ⟨rfl, rfl, .inl rfl⟩
  | refused _ system made => exact ⟨rfl, rfl, .inr rfl⟩
  | taken _ system made bound => exact ⟨rfl, rfl, .inr rfl⟩
  | bound binds => cases failed

end Registers

theorem make_offering {built : DatabaseSystem → Bool} {system : DatabaseSystem}
    (absent : built system = false) (base : DatabaseSystem → Driver σ) (runs : Nat)
    (hooks : List Hook) :
    (Factory.offering built base).make runs system hooks = .error (.factoryUnsupported system) := by
  simp only [Factory.offering, Factory.observing, absent, Bool.false_eq_true, if_false]
  rfl

end Registrar

namespace Process

theorem log_nil (p : Process σ) : log [] p = p := by
  simp [log, World.log, World.observing, Telemetry.log]

/-- A registration that fails changes no more than how often the factory has run. -/
theorem step_of_error {p : Process σ} {n : Nat} {r : Registrar σ}
    (held : p.registrars[n]? = some r) {name : String} {hooks : List Hook}
    {err : RegistrationError} (failed : (r.register p.natives name hooks).answer = .error err) :
    ∃ r', (r' = r ∨ r' = r.worked) ∧
      step (.register n name hooks) p = { p with registrars := p.registrars.set n r' } := by
  obtain ⟨natives, logs, registrar⟩ := (r.registers p.natives name hooks).of_error failed
  refine ⟨_, registrar, ?_⟩
  rw [step_register held, register]
  simp only [natives, logs, log_nil]

theorem map_registry_set {registrars : List (Registrar σ)} {n : Nat} {r r' : Registrar σ}
    (held : registrars[n]? = some r) (same : r'.registry = r.registry) :
    (registrars.set n r').map Registrar.registry = registrars.map Registrar.registry := by
  refine List.ext_getElem? fun m => ?_
  by_cases here : n = m
  · subst here
    obtain ⟨inside, -⟩ := List.getElem?_eq_some_iff.mp held
    rw [List.getElem?_map, List.getElem?_map, List.getElem?_set_self inside, held]
    exact congrArg some same
  · rw [List.getElem?_map, List.getElem?_map, List.getElem?_set_ne here]

/-- No registration of the name with this registrar succeeds among the turns. -/
def Refuses (p : Process σ) (n : Nat) (name : String) (turns : List (Turn σ)) : Prop :=
  ∀ earlier again rest, turns = earlier ++ .register n name again :: rest →
    ¬ (run earlier p).Accepts n name again

theorem new_of_refuses {p : Process σ} {n : Nat} {r : Registrar σ}
    (held : p.registrars[n]? = some r) {name : String}
    (new : r.registry.contains (r.registrationName name) = false) {turns : List (Turn σ)}
    (refuses : p.Refuses n name turns) :
    ∃ r', (run turns p).registrars[n]? = some r' ∧ r.Continues r' ∧
      r'.registry.contains (r'.registrationName name) = false := by
  obtain ⟨r', held', goesOn⟩ := (extends_run p turns).registrars n r held
  refine ⟨r', held', goesOn, ?_⟩
  rw [← Bool.not_eq_true]
  intro known
  obtain ⟨d, found⟩ := NameTable.exists_get? known
  rcases run_origin turns held' found with
    ⟨r₀, held₀, old⟩ | ⟨before, other, hooks, after, r₁, rfl, held₁, named, binds⟩
  · obtain rfl := Option.some.inj (held.symm.trans held₀)
    rw [goesOn.registrationName] at old
    rw [NameTable.contains_of_get? old] at new
    cases new
  · -- the registration that bound the name is one of those that do not succeed
    obtain ⟨r₂, held₂, goesOn₂⟩ := (extends_run p before).registrars n r held
    obtain rfl := Option.some.inj (held₁.symm.trans held₂)
    rw [goesOn.registrationName, ← goesOn₂.registrationName] at named
    obtain rfl := Registrar.registrationName_injective named
    exact refuses before hooks after rfl ⟨_, _, held₁, binds.answer⟩

/-- The registration of a name that its registrar has not registered yet is answered by the first
fault that there is, whatever state the process is in: no system of that name, no driver from the
factory, no free name in the native table. A factory makes no driver for a system that it was not
built with. If the registration fails, the native table and all registries are as they were, and
nothing else has changed but the count of runs of one factory. However the process goes on, as long
as no registration of the name with this registrar succeeds, the next one is judged in the state
that it meets, by the same registrar and the same rule. -/
theorem register_judged (p : Process σ) {n : Nat} {r : Registrar σ}
    (held : p.registrars[n]? = some r) {name : String}
    (new : r.registry.contains (r.registrationName name) = false) (hooks : List Hook) :
    let answer := (r.register p.natives name hooks).answer
    let q := step (.register n name hooks) p
    r.Judges p.natives name hooks answer ∧
    (∀ built base, r.factory.make = (Factory.offering built base).make →
      DatabaseSystem.ofDriverName name ≠ .unknown → built (.ofDriverName name) = false →
      answer = .error (.factoryUnsupported (.ofDriverName name))) ∧
    ∀ err, answer = .error err →
      q.natives = p.natives ∧
      q.registrars.map Registrar.registry = p.registrars.map Registrar.registry ∧
      (∃ r', (r' = r ∨ r' = r.worked) ∧ q = { p with registrars := p.registrars.set n r' }) ∧
      ∀ later, q.Refuses n name later →
        ∃ r', (run later q).registrars[n]? = some r' ∧ r'.stem = r.stem ∧
          r'.factory.make = r.factory.make ∧
          ∀ again, r'.Judges (run later q).natives name again
            (r'.register (run later q).natives name again).answer := by
  intro answer q
  have judged := (r.registers p.natives name hooks).judges new
  refine ⟨judged, fun built base make system absent => ?_, fun err failed => ?_⟩
  · refine judged.refused system _ ?_
    rw [make]
    exact Registrar.make_offering absent base _ _
  obtain ⟨r', same, left⟩ := step_of_error held failed
  have registry : r'.registry = r.registry := by
    rcases same with rfl | rfl <;> rfl
  have goesOn : r.Continues r' := by
    rcases same with rfl | rfl <;> exact ⟨rfl, rfl, fun _ _ h => h⟩
  have held' : q.registrars[n]? = some r' := by
    rw [show q = _ from left]
    exact List.getElem?_set_self (List.getElem?_eq_some_iff.mp held).1
  have new' : r'.registry.contains (r'.registrationName name) = false := by
    rw [registry, goesOn.registrationName, new]
  refine ⟨?_, ?_, ⟨r', same, left⟩, fun later refuses => ?_⟩
  · rw [show q = _ from left]
  · rw [show q = _ from left]
    exact map_registry_set held registry
  · obtain ⟨r'', held'', goesOn', new''⟩ := new_of_refuses held' new' refuses
    exact ⟨r'', held'', (goesOn.trans goesOn').stem, (goesOn.trans goesOn').make, fun again =>
      (r''.registers _ name again).judges new''⟩

/-- A name that somebody else has bound in the native table is refused, and refused again when the
registration is tried once more. -/
theorem register_judged_taken :
    let w : World Bench := ⟨Bench.empty, .empty, .empty⟩
    let p := run [.found "db" (Bench.embeddedFactory 0),
      .bind "db-sqlite" (Bench.embedded 1 .sqlite)] (fresh w .empty)
    let q := step (.register 0 "sqlite" []) p
    let refused : Except RegistrationError String :=
      .error (.native (.duplicateDriver "db-sqlite"))
    ∃ r r' : Registrar Bench, p.registrars[0]? = some r ∧
      r.registry.contains (r.registrationName "sqlite") = false ∧
      (r.register p.natives "sqlite" []).answer = refused ∧ q.natives = p.natives ∧
      q.registrars[0]? = some r' ∧
      (r'.register q.natives "sqlite" [.record "again"]).answer = refused := by
  intro w p q refused
  have start : ∃ r, p.registrars[0]? = some r ∧
      r.registry.contains (r.registrationName "sqlite") = false ∧
      r.stem = "db" ∧ r.factory.make = (Bench.embeddedFactory 0).make :=
    ⟨_, rfl, rfl, rfl, rfl⟩
  obtain ⟨r, held, new, stem, make⟩ := start
  obtain ⟨judged, -, failed⟩ := register_judged p held new []
  have bound : p.natives.contains "db-sqlite" = true := by decide
  have answered := judged.taken (by decide) ⟨⟨.sqlite, []⟩, Bench.embedded 0 .sqlite⟩
    (by rw [make]; rfl) (by rw [stem]; exact bound)
  rw [stem] at answered
  obtain ⟨natives, -, -, later⟩ := failed _ answered
  obtain ⟨r', held', stem', make', again⟩ := later [] (by rintro (_ | _) _ _ ⟨⟩)
  have answered' := (again [.record "again"]).taken (by decide)
    ⟨⟨.sqlite, [.record "again"]⟩, Bench.embedded 0 .sqlite⟩ (by rw [make', make]; rfl)
    (by rw [stem', stem]; exact natives ▸ bound)
  rw [stem', stem] at answered'
  exact ⟨r, r', held, new, answered, natives, held', answered'⟩

end Process
end DriverTelemetry
