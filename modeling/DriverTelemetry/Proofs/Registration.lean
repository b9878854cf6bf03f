import DriverTelemetry.Registration.Process
import DriverTelemetry.Session.Bench

/-!
# What registrations leave behind

A registration binds a name in the registry of its registrar and in the native table, to one and the
same driver, or in neither of them; and nothing is ever unbound. So the tables stay in step however
registrations with many registrars, direct bindings and the opening of data sources follow each
other, and a name that was registered once stands for the driver of its first registration.
-/
namespace DriverTelemetry

variable {σ : Type}

namespace Factory

end Factory

namespace Registrar

def worked (r : Registrar σ) : Registrar σ :=
  { r with factory := { r.factory with runs := r.factory.runs + 1 } }

/-- The registration binds this driver: the name is new to the registrar and stands for a system,
the factory makes the driver, and the native table has nothing under the name it is bound to. -/
structure Binds (r : Registrar σ) (natives : NativeTable σ) (name : String) (hooks : List Hook)
    (d : ObservedDriver σ) : Prop where
  new : r.registry.contains (r.registrationName name) = false
  system : DatabaseSystem.ofDriverName name ≠ .unknown
  made : r.factory.make r.factory.runs (.ofDriverName name) hooks = .ok d
  free : natives.contains (r.registrationName name) = false

/-- All that a registration can come to, in the order in which it is found out. -/
inductive Registers (r : Registrar σ) (natives : NativeTable σ) (name : String)
    (hooks : List Hook) : Registration σ → Prop where
  | known (old : r.registry.contains (r.registrationName name) = true) :
      Registers r natives name hooks
        ⟨.ok (r.registrationName name), r, natives, [known name (r.registrationName name)]⟩
  | unsupported (new : r.registry.contains (r.registrationName name) = false)
      (system : DatabaseSystem.ofDriverName name = .unknown) :
      Registers r natives name hooks ⟨.error (.unsupportedSystem name), r, natives, []⟩
  | refused {err : RegistrationError}
      (new : r.registry.contains (r.registrationName name) = false)
      (system : DatabaseSystem.ofDriverName name ≠ .unknown)
      (made : r.factory.make r.factory.runs (.ofDriverName name) hooks = .error err) :
      Registers r natives name hooks ⟨.error err, r.worked, natives, []⟩
  | taken {d : ObservedDriver σ}
      (new : r.registry.contains (r.registrationName name) = false)
      (system : DatabaseSystem.ofDriverName name ≠ .unknown)
      (made : r.factory.make r.factory.runs (.ofDriverName name) hooks = .ok d)
      (bound : natives.contains (r.registrationName name) = true) :
      Registers r natives name hooks
        ⟨.error (.native (.duplicateDriver (r.registrationName name))), r.worked, natives, []⟩
  | bound {d : ObservedDriver σ} (binds : r.Binds natives name hooks d) :
      Registers r natives name hooks
        ⟨.ok (r.registrationName name),
          { r.worked with registry := r.registry.insert (r.registrationName name) d },
          natives.insert (r.registrationName name) d.driver,
          [NativeTable.registered (r.registrationName name),
            Registrar.made name (r.registrationName name) (.ofDriverName name) d.config]⟩

theorem register_known {r : Registrar σ} {name : String}
    (old : r.registry.contains (r.registrationName name) = true) (natives : NativeTable σ)
    (hooks : List Hook) :
    r.register natives name hooks =
      ⟨.ok (r.registrationName name), r, natives, [known name (r.registrationName name)]⟩ := by
  simp [register, old]

theorem register_new {r : Registrar σ} {name : String}
    (new : r.registry.contains (r.registrationName name) = false) (natives : NativeTable σ)
    (hooks : List Hook) :
    r.register natives name hooks =
      match create name (r.registrationName name) hooks ⟨r.factory, natives, []⟩ with
      | (.ok d, m) => ⟨.ok (r.registrationName name),
          { r with
            registry := r.registry.insert (r.registrationName name) d
            factory := m.factory },
          m.natives, m.logs⟩
      | (.error err, m) => ⟨.error err, { r with factory := m.factory }, m.natives, m.logs⟩ := by
  simp only [register, new, NameTable.getOrInsert, NameTable.get?_eq_none new, Bool.false_eq_true,
    if_false]
  cases create name (r.registrationName name) hooks ⟨r.factory, natives, []⟩ with
  | mk created m => cases created <;> rfl

theorem registers (r : Registrar σ) (natives : NativeTable σ) (name : String)
    (hooks : List Hook) : r.Registers natives name hooks (r.register natives name hooks) := by
  cases new : r.registry.contains (r.registrationName name) with
  | true =>
    rw [register_known new]
    exact .known new
  | false =>
    rw [register_new new]
    by_cases system : DatabaseSystem.ofDriverName name = .unknown
    · simp only [create, system, if_true]
      exact .unsupported new system
    · cases made : r.factory.make r.factory.runs (.ofDriverName name) hooks with
      | error err =>
        simp only [create, system, if_false, Factory.run, made]
        exact .refused new system made
      | ok d =>
        cases bound : natives.contains (r.registrationName name) with
        | true =>
          simp only [create, system, if_false, Factory.run, made, NativeTable.register, bound,
            if_true]
          exact .taken new system made bound
        | false =>
          simp only [create, system, if_false, Factory.run, made, NativeTable.register, bound,
            Bool.false_eq_true]
          exact .bound ⟨new, system, made, bound⟩

/-- What a registrar is later: nothing of its registry is lost. -/
structure Continues (r r' : Registrar σ) : Prop where
  stem : r'.stem = r.stem
  make : r'.factory.make = r.factory.make
  registry : ∀ key d, r.registry.get? key = some d → r'.registry.get? key = some d

theorem Continues.refl (r : Registrar σ) : r.Continues r := ⟨rfl, rfl, fun _ _ h => h⟩

theorem Continues.trans {r r' r'' : Registrar σ} (h : r.Continues r') (h' : r'.Continues r'') :
    r.Continues r'' :=
  ⟨h'.stem.trans h.stem, h'.make.trans h.make, fun key d found =>
    h'.registry key d (h.registry key d found)⟩

theorem Continues.registrationName {r r' : Registrar σ} (h : r.Continues r') (name : String) :
    r'.registrationName name = r.registrationName name := by
  rw [Registrar.registrationName, h.stem]
  rfl

theorem registrationName_injective {r : Registrar σ} {name other : String}
    (h : r.registrationName name = r.registrationName other) : name = other :=
  (String.append_right_inj (r.stem ++ "-")).mp h

namespace Registers

variable {r : Registrar σ} {natives : NativeTable σ} {name : String} {hooks : List Hook}
  {done : Registration σ}

theorem continues (h : r.Registers natives name hooks done) : r.Continues done.registrar := by
  cases h with
  | known old => exact .refl r
  | unsupported new system => exact .refl r
  | refused new system made => exact ⟨rfl, rfl, fun _ _ found => found⟩
  | taken new system made bound => exact ⟨rfl, rfl, fun _ _ found => found⟩
  | bound binds => exact ⟨rfl, rfl, fun _ _ found => NameTable.get?_insert_of_get? found _ _⟩

theorem natives_kept (h : r.Registers natives name hooks done) {key : String} {driver : Driver σ}
    (found : natives.get? key = some driver) : done.natives.get? key = some driver := by
  cases h with
  | known old => exact found
  | unsupported new system => exact found
  | refused new system made => exact found
  | taken new system made bound => exact found
  | bound binds => exact NameTable.get?_insert_of_get? found _ _

theorem origin (h : r.Registers natives name hooks done) {key : String} {d : ObservedDriver σ}
    (found : done.registrar.registry.get? key = some d) :
    r.registry.get? key = some d ∨
      (key = r.registrationName name ∧ r.Binds natives name hooks d ∧
        done.natives.get? key = some d.driver) := by
  cases h with
  | known old => exact .inl found
  | unsupported new system => exact .inl found
  | refused new system made => exact .inl found
  | taken new system made bound => exact .inl found
  | bound binds =>
    rcases NameTable.get?_of_get?_insert found with old | ⟨rfl, -, rfl⟩
    · exact .inl old
    · exact .inr ⟨rfl, binds, NameTable.get?_insert_self binds.free _⟩

theorem found_of_ok (h : r.Registers natives name hooks done) {registered : String}
    (ok : done.answer = .ok registered) :
    registered = r.registrationName name ∧
      ∃ d, done.registrar.registry.get? registered = some d := by
  cases h with
  | known old =>
    cases ok
    exact ⟨rfl, NameTable.exists_get? old⟩
  | unsupported new system => cases ok
  | refused new system made => cases ok
  | taken new system made bound => cases ok
  | bound binds =>
    cases ok
    exact ⟨rfl, _, NameTable.get?_insert_self binds.new _⟩

end Registers

theorem Binds.answer {r : Registrar σ} {natives : NativeTable σ} {name : String}
    {hooks : List Hook} {d : ObservedDriver σ} (h : r.Binds natives name hooks d) :
    (r.register natives name hooks).answer = .ok (r.registrationName name) := by
  rw [register_new h.new]
  simp [create, h.system, Factory.run, h.made, NativeTable.register, h.free]

end Registrar

namespace Process

/-- What a process is later: no driver and no registration is lost. -/
structure Extends (p p' : Process σ) : Prop where
  natives : ∀ name driver, p.natives.get? name = some driver → p'.natives.get? name = some driver
  registrars : ∀ (n : Nat) (r : Registrar σ), p.registrars[n]? = some r →
    ∃ r', p'.registrars[n]? = some r' ∧ r.Continues r'

theorem Extends.refl (p : Process σ) : p.Extends p :=
  ⟨fun _ _ h => h, fun _ r h => ⟨r, h, .refl r⟩⟩

theorem Extends.trans {p p' p'' : Process σ} (h : p.Extends p') (h' : p'.Extends p'') :
    p.Extends p'' := by
  refine ⟨fun name driver found => h'.natives name driver (h.natives name driver found), ?_⟩
  intro n r held
  obtain ⟨r', held', goesOn⟩ := h.registrars n r held
  obtain ⟨r'', held'', goesOn'⟩ := h'.registrars n r' held'
  exact ⟨r'', held'', goesOn.trans goesOn'⟩

theorem Extends.contains {p p' : Process σ} (h : p.Extends p') {name : String}
    (there : p.natives.contains name = true) : p'.natives.contains name = true := by
  obtain ⟨driver, found⟩ := NameTable.exists_get? there
  exact NameTable.contains_of_get? (h.natives name driver found)

/-- Every name in a registry is bound in the native table as well, to the same driver under the same
configuration. -/
def InStep (p : Process σ) : Prop :=
  ∀ r ∈ p.registrars, ∀ name d, r.registry.get? name = some d →
    p.natives.get? name = some d.driver

theorem step_register {p : Process σ} {n : Nat} {r : Registrar σ}
    (held : p.registrars[n]? = some r) (name : String) (hooks : List Hook) :
    step (.register n name hooks) p = p.register n r name hooks := by
  simp [step, held]

theorem registrars_register {p : Process σ} {n m : Nat} {r r' : Registrar σ}
    (held : p.registrars[n]? = some r) {name : String} {hooks : List Hook}
    (found : (p.register n r name hooks).registrars[m]? = some r') :
    (m = n ∧ r' = (r.register p.natives name hooks).registrar) ∨
      (m ≠ n ∧ p.registrars[m]? = some r') := by
  obtain ⟨inside, -⟩ := List.getElem?_eq_some_iff.mp held
  by_cases same : m = n
  · subst same
    rw [register, log, List.getElem?_set_self inside] at found
    exact .inl ⟨rfl, (Option.some.inj found).symm⟩
  · rw [register, log, List.getElem?_set_ne (Ne.symm same)] at found
    exact .inr ⟨same, found⟩

theorem register_self {p : Process σ} {n : Nat} {r : Registrar σ}
    (held : p.registrars[n]? = some r) (name : String) (hooks : List Hook) :
    (p.register n r name hooks).registrars[n]? =
      some (r.register p.natives name hooks).registrar := by
  obtain ⟨inside, -⟩ := List.getElem?_eq_some_iff.mp held
  exact List.getElem?_set_self inside

theorem extends_register {p : Process σ} {n : Nat} {r : Registrar σ}
    (held : p.registrars[n]? = some r) (name : String) (hooks : List Hook) :
    p.Extends (p.register n r name hooks) := by
  have course := r.registers p.natives name hooks
  refine ⟨fun key driver found => course.natives_kept found, fun m r' held' => ?_⟩
  by_cases same : m = n
  · subst same
    rw [held] at held'
    obtain rfl := Option.some.inj held'
    exact ⟨_, register_self held name hooks, course.continues⟩
  · refine ⟨r', ?_, .refl r'⟩
    rw [register, log, List.getElem?_set_ne (Ne.symm same)]
    exact held'

theorem extends_bind {p : Process σ} {natives : NativeTable σ} {name : String} {driver : Driver σ}
    (bound : p.natives.register name driver = .ok natives) (records : List LogRecord) :
    p.Extends (log records { p with natives }) := by
  obtain ⟨-, rfl⟩ := NativeTable.register_eq_ok.mp bound
  exact ⟨fun key other found => NameTable.get?_insert_of_get? found _ _,
    fun n r held => ⟨r, held, .refl r⟩⟩

theorem extends_found (p : Process σ) (stem : String) (factory : Factory σ) :
    p.Extends (step (.found stem factory) p) := by
  refine ⟨fun name driver found => found, fun n r held => ⟨r, ?_, .refl r⟩⟩
  obtain ⟨inside, -⟩ := List.getElem?_eq_some_iff.mp held
  rw [step, List.getElem?_append_left inside]
  exact held

theorem extends_step (p : Process σ) (turn : Turn σ) : p.Extends (step turn p) := by
  cases turn with
  | found stem factory => exact extends_found p stem factory
  | register n name hooks =>
    cases held : p.registrars[n]? with
    | none => simpa [step, held] using Extends.refl p
    | some r =>
      rw [step_register held]
      exact extends_register held name hooks
  | bind name driver =>
    cases bound : p.natives.register name driver with
    | error err => simpa [step, bound] using Extends.refl p
    | ok natives => simpa [step, bound] using extends_bind bound _
  | openDb name dsn => exact ⟨fun _ _ h => h, fun _ r h => ⟨r, h, .refl r⟩⟩

theorem extends_run (p : Process σ) (turns : List (Turn σ)) : p.Extends (run turns p) := by
  induction turns generalizing p with
  | nil => exact .refl p
  | cons turn turns ih => exact (extends_step p turn).trans (ih _)

theorem run_append (turns later : List (Turn σ)) (p : Process σ) :
    run (turns ++ later) p = run later (run turns p) := by
  induction turns generalizing p with
  | nil => rfl
  | cons turn turns ih => exact ih _

theorem step_origin {p : Process σ} {turn : Turn σ} {m : Nat} {r' : Registrar σ} {key : String}
    {d : ObservedDriver σ} (held' : (step turn p).registrars[m]? = some r')
    (found : r'.registry.get? key = some d) :
    (∃ r, p.registrars[m]? = some r ∧ r.registry.get? key = some d) ∨
      ∃ name hooks r, turn = .register m name hooks ∧ p.registrars[m]? = some r ∧
        key = r.registrationName name ∧ r.Binds p.natives name hooks d ∧
        (step turn p).natives.get? key = some d.driver := by
  cases turn with
  | found stem factory =>
    rcases Nat.lt_or_ge m p.registrars.length with old | new
    · rw [step, List.getElem?_append_left old] at held'
      exact .inl ⟨r', held', found⟩
    · rw [step, List.getElem?_append_right new] at held'
      obtain rfl := List.mem_singleton.mp (List.mem_of_getElem? held')
      cases found
  | register n name hooks =>
    cases held : p.registrars[n]? with
    | none =>
      simp only [step, held] at held'
      exact .inl ⟨r', held', found⟩
    | some r =>
      rw [step_register held] at held' ⊢
      rcases registrars_register held held' with ⟨rfl, rfl⟩ | ⟨-, old⟩
      · rcases (r.registers p.natives name hooks).origin found with old | ⟨named, binds, bound⟩
        · exact .inl ⟨r, held, old⟩
        · exact .inr ⟨name, hooks, r, rfl, held, named, binds, bound⟩
      · exact .inl ⟨r', old, found⟩
  | bind name driver =>
    cases bound : p.natives.register name driver with
    | error err =>
      simp only [step, bound] at held'
      exact .inl ⟨r', held', found⟩
    | ok natives =>
      simp only [step, bound] at held'
      exact .inl ⟨r', held', found⟩
  | openDb name dsn => exact .inl ⟨r', held', found⟩

theorem inStep_fresh (w : World σ) (natives : NativeTable σ) : (fresh w natives).InStep := by
  intro r held
  cases held

theorem InStep.step {p : Process σ} (h : p.InStep) (turn : Turn σ) :
    (Process.step turn p).InStep := by
  intro r' held' key d found
  obtain ⟨m, held'⟩ := List.mem_iff_getElem?.mp held'
  rcases step_origin held' found with ⟨r, held, old⟩ | ⟨-, -, -, -, -, -, -, bound⟩
  · have before := h r (List.mem_of_getElem? held) key d old
    exact (extends_step p turn).natives key d.driver before
  · exact bound

theorem InStep.run {p : Process σ} (h : p.InStep) (turns : List (Turn σ)) :
    (Process.run turns p).InStep := by
  induction turns generalizing p with
  | nil => exact h
  | cons turn turns ih => exact ih (h.step turn)

def Accepts (p : Process σ) (n : Nat) (name : String) (hooks : List Hook) : Prop :=
  ∃ r registered, p.registrars[n]? = some r ∧
    (r.register p.natives name hooks).answer = .ok registered

/-- Whatever a registry holds after a run was bound by one of its registrations, unless the registry
held it at the start. -/
theorem run_origin {start : Process σ} (turns : List (Turn σ)) {n : Nat} {r' : Registrar σ}
    {key : String} {d : ObservedDriver σ} (held' : (run turns start).registrars[n]? = some r')
    (found : r'.registry.get? key = some d) :
    (∃ r, start.registrars[n]? = some r ∧ r.registry.get? key = some d) ∨
      ∃ before name hooks after r, turns = before ++ .register n name hooks :: after ∧
        (run before start).registrars[n]? = some r ∧ key = r.registrationName name ∧
        r.Binds (run before start).natives name hooks d := by
  induction turns generalizing start with
  | nil => exact .inl ⟨r', held', found⟩
  | cons turn turns ih =>
    rcases ih held' with ⟨r, held, old⟩ | ⟨before, name, hooks, after, r, rfl, held, named, binds⟩
    · rcases step_origin held old with old | ⟨name, hooks, r, rfl, held, named, binds, -⟩
      · exact .inl old
      · exact .inr ⟨[], name, hooks, turns, r, rfl, held, named, binds⟩
    · exact .inr ⟨turn :: before, name, hooks, after, r, rfl, held, named, binds⟩

theorem found_of_accepted {p : Process σ} {n : Nat} {r : Registrar σ}
    (held : p.registrars[n]? = some r) {name : String} {hooks : List Hook} {registered : String}
    (ok : (r.register p.natives name hooks).answer = .ok registered) :
    registered = r.registrationName name ∧
      ∃ r' d, (step (.register n name hooks) p).registrars[n]? = some r' ∧ r.Continues r' ∧
        r'.registry.get? registered = some d := by
  have course := r.registers p.natives name hooks
  obtain ⟨named, d, found⟩ := course.found_of_ok ok
  refine ⟨named, _, d, ?_, course.continues, found⟩
  rw [step_register held]
  exact register_self held name hooks

end Process
end DriverTelemetry
