import DriverTelemetry.Proofs.FailedRegistrations
import DriverTelemetry.Proofs.Numerals

/-!
# Whose name it is

A registration is bound under its stem, a hyphen and the driver name. A stem may be empty and may
have hyphens of its own, so as a text this could be split in several ways; but a driver name that
stands for a system has no hyphen, in whichever spelling, and so the stem ends at the last one.
Different registrations are thus bound under different names. A registration therefore finds its
name taken only where this very name was bound directly, or was bound by another registrar of the
same stem for the same driver name. A factory is free to answer that some name is taken, of
whichever name, and a registration passes that on.
-/
namespace DriverTelemetry

variable {σ : Type}

theorem DatabaseSystem.hyphen_not_mem {name : String} (known : ofDriverName name ≠ .unknown) :
    '-' ∉ name.toList := by
  intro hyphen
  have lowered : '-' ∈ name.toList.map Char.toLower := List.mem_map.mpr ⟨'-', hyphen, by decide⟩
  have differs {text : List Char} (plain : '-' ∉ text) : name.toList.map Char.toLower ≠ text :=
    fun same => plain (same ▸ lowered)
  apply known
  simp only [ofDriverName]
  rw [if_neg (not_or.mpr ⟨differs (by decide), differs (by decide)⟩), if_neg (differs (by decide)),
    if_neg (not_or.mpr ⟨differs (by decide),
      not_or.mpr ⟨differs (by decide), differs (by decide)⟩⟩)]

namespace Registrar

/-- Names that stand for systems are registered differently, under one stem as under two. -/
theorem stem_and_name_of_registrationName {r r' : Registrar σ} {name name' : String}
    (known : DatabaseSystem.ofDriverName name ≠ .unknown)
    (known' : DatabaseSystem.ofDriverName name' ≠ .unknown)
    (same : r.registrationName name = r'.registrationName name') :
    r.stem = r'.stem ∧ name = name' := by
  have plain {text : String} (known : DatabaseSystem.ofDriverName text ≠ .unknown) :
      ∀ c ∈ text.toList.reverse, (c != '-') = true := by
    simpa using fun c inside => ne_of_mem_of_not_mem inside (DatabaseSystem.hyphen_not_mem known)
  have backwards : name.toList.reverse ++ '-' :: r.stem.toList.reverse =
      name'.toList.reverse ++ '-' :: r'.stem.toList.reverse := by
    simpa [registrationName] using congrArg (fun text => text.toList.reverse) same
  -- read from its end, the text is the name up to the first hyphen and then the stem
  obtain ⟨names, stems⟩ := Decimal.eq_of_append_eq (plain known) (plain known') (by decide)
    (by decide) backwards
  exact ⟨String.toList_inj.mp (List.reverse_inj.mp (List.cons.inj stems).2),
    String.toList_inj.mp (List.reverse_inj.mp names)⟩

/-- Names that stand for no system may be registered alike under different stems. -/
example : (ofFactory "db" .refusing : Registrar σ).registrationName "eu-sqlite" =
    (ofFactory "db-eu" .refusing : Registrar σ).registrationName "sqlite" := rfl

/-- A registration that is refused because its name is taken: either the native table has the name
it would be bound under, which is the one in the answer, or the factory has answered so. -/
theorem Registers.of_duplicate {r : Registrar σ} {natives : NativeTable σ} {name : String}
    {hooks : List Hook} {done : Registration σ} (h : r.Registers natives name hooks done)
    {taken : String} (refused : done.answer = .error (.native (.duplicateDriver taken))) :
    r.factory.make r.factory.runs (.ofDriverName name) hooks =
        .error (.native (.duplicateDriver taken)) ∨
      (taken = r.registrationName name ∧ r.registry.contains taken = false ∧
        DatabaseSystem.ofDriverName name ≠ .unknown ∧ natives.contains taken = true) := by
  cases h with
  | known old => cases refused
  | unsupported new system => cases refused
  | refused new system made =>
    cases refused
    exact .inl made
  | taken new system made bound =>
    cases refused
    exact .inr ⟨rfl, new, system, bound⟩
  | bound binds => cases refused

theorem Registers.puts {r : Registrar σ} {natives : NativeTable σ} {name : String}
    {hooks : List Hook} {done : Registration σ} (h : r.Registers natives name hooks done)
    {key : String} (there : done.natives.contains key = true) :
    natives.contains key = true ∨
      (key = r.registrationName name ∧ ∃ d, r.Binds natives name hooks d) := by
  cases h with
  | known old => exact .inl there
  | unsupported new system => exact .inl there
  | refused new system made => exact .inl there
  | taken new system made bound => exact .inl there
  | bound binds =>
    rcases NameTable.contains_insert.mp there with old | same
    · exact .inl old
    · exact .inr ⟨same, _, binds⟩

end Registrar

/-- The factories with a base driver for each system that they were built with leave the native
table alone. -/
theorem Factory.make_offering_ne (built : DatabaseSystem → Bool) (base : DatabaseSystem → Driver σ)
    (runs : Nat) (system : DatabaseSystem) (hooks : List Hook) (err : SqlError) :
    (offering built base).make runs system hooks ≠ .error (.native err) := by
  intro answered
  cases has : built system with
  | true =>
    have made : (offering built base).make runs system hooks =
        .ok ⟨⟨system, hooks⟩, base system⟩ := by
      simp only [offering, observing, has, if_true]
      rfl
    cases made.symm.trans answered
  | false => cases (Registrar.make_offering has base runs hooks).symm.trans answered

namespace Process

/-- What binds a name in the native table, in the state that the turn meets: the turn binds it
directly, or it is a registration that binds it. -/
inductive Puts (p : Process σ) : String → Turn σ → Prop where
  | directly {name : String} (driver : Driver σ) (free : p.natives.contains name = false) :
      Puts p name (.bind name driver)
  | registering {n : Nat} {r : Registrar σ} {name : String} {hooks : List Hook}
      {d : ObservedDriver σ} (held : p.registrars[n]? = some r)
      (binds : r.Binds p.natives name hooks d) :
      Puts p (r.registrationName name) (.register n name hooks)

theorem contains_bind {p : Process σ} {name other : String} {driver : Driver σ} :
    (step (.bind other driver) p).natives.contains name = true ↔
      p.natives.contains name = true ∨ name = other := by
  cases bound : p.natives.contains other with
  | true =>
    simp only [step, NativeTable.register, bound, if_true]
    exact ⟨.inl, fun h => h.elim id fun same => same ▸ bound⟩
  | false =>
    simp only [step, NativeTable.register, bound, Bool.false_eq_true, if_false, log]
    exact NameTable.contains_insert

theorem step_puts {p : Process σ} {turn : Turn σ} {key : String}
    (there : (step turn p).natives.contains key = true) :
    p.natives.contains key = true ∨ p.Puts key turn := by
  cases turn with
  | found stem factory => exact .inl there
  | register n name hooks =>
    cases held : p.registrars[n]? with
    | none =>
      simp only [step, held] at there
      exact .inl there
    | some r =>
      rw [step_register held] at there
      rcases (r.registers p.natives name hooks).puts there with old | ⟨rfl, d, binds⟩
      · exact .inl old
      · exact .inr (.registering held binds)
  | bind name driver =>
    rcases contains_bind.mp there with old | rfl
    · exact .inl old
    · cases free : p.natives.contains key with
      | true => exact .inl rfl
      | false => exact .inr (.directly driver free)
  | openDb name dsn => exact .inl there

theorem run_puts {start : Process σ} (turns : List (Turn σ)) {key : String}
    (there : (run turns start).natives.contains key = true) :
    start.natives.contains key = true ∨
      ∃ before turn after, turns = before ++ turn :: after ∧ (run before start).Puts key turn := by
  induction turns generalizing start with
  | nil => exact .inl there
  | cons turn turns ih =>
    rcases ih there with now | ⟨before, putting, after, rfl, puts⟩
    · rcases step_puts now with old | puts
      · exact .inl old
      · exact .inr ⟨[], turn, turns, rfl, puts⟩
    · exact .inr ⟨turn :: before, putting, after, rfl, puts⟩

/-- A registrar to which a name is new is not the one that has bound it: that one keeps the name in
its registry. -/
theorem ne_of_new {start : Process σ} {before after : List (Turn σ)} {m n : Nat}
    {r r' : Registrar σ} {name : String} {hooks : List Hook} {d : ObservedDriver σ}
    (held' : (run before start).registrars[m]? = some r')
    (binds : r'.Binds (run before start).natives name hooks d)
    (held : (run (before ++ .register m name hooks :: after) start).registrars[n]? = some r)
    (new : r.registry.contains (r'.registrationName name) = false) : m ≠ n := by
  rintro rfl
  obtain ⟨-, r₁, d₁, held₁, -, found⟩ := found_of_accepted held' binds.answer
  obtain ⟨r₂, held₂, goesOn⟩ := (extends_run _ after).registrars m r₁ held₁
  rw [run_append] at held
  obtain rfl := Option.some.inj (held₂.symm.trans held)
  rw [NameTable.contains_of_get? (goesOn.registry _ _ found)] at new
  cases new

/-- How a name under this stem came to be taken for the registrar of this number: among the turns it
was bound directly, or another registrar of the same stem bound it for the same driver name. -/
inductive Taken (start : Process σ) (n : Nat) (stem name : String) : List (Turn σ) → Prop where
  | directly {before after : List (Turn σ)} (driver : Driver σ)
      (free : (run before start).natives.contains (stem ++ "-" ++ name) = false) :
      Taken start n stem name (before ++ .bind (stem ++ "-" ++ name) driver :: after)
  | registered {before after : List (Turn σ)} {m : Nat} {r : Registrar σ} {hooks : List Hook}
      (other : m ≠ n) (held : (run before start).registrars[m]? = some r) (same : r.stem = stem)
      (free : (run before start).natives.contains (stem ++ "-" ++ name) = false)
      (answered : (r.register (run before start).natives name hooks).answer =
        .ok (stem ++ "-" ++ name)) :
      Taken start n stem name (before ++ .register m name hooks :: after)

/-- Registrations of names that stand for systems are bound under one name only if they have the
same stem and the same driver name. So when a registration in a process is refused because a name is
taken, and it is not the factory that has answered so, then the name is that of this registration,
and it was bound directly or by another registrar of the same stem for the same driver name. A
factory with a base driver for each system that it was built with never answers so. -/
theorem run_registrationNames (turns : List (Turn σ)) (w : World σ) :
    let start := fresh w .empty
    let p := run turns start
    (∀ (r r' : Registrar σ) name name', DatabaseSystem.ofDriverName name ≠ .unknown →
      DatabaseSystem.ofDriverName name' ≠ .unknown →
      r.registrationName name = r'.registrationName name' → r.stem = r'.stem ∧ name = name') ∧
    (∀ (n : Nat) (r : Registrar σ) name hooks taken, p.registrars[n]? = some r →
      (r.register p.natives name hooks).answer = .error (.native (.duplicateDriver taken)) →
      r.factory.make r.factory.runs (.ofDriverName name) hooks ≠
        .error (.native (.duplicateDriver taken)) →
      taken = r.stem ++ "-" ++ name ∧ Taken start n r.stem name turns) ∧
    ∀ built base runs system hooks taken,
      (Factory.offering built base : Factory σ).make runs system hooks ≠
        .error (.native (.duplicateDriver taken)) := by
  intro start p
  refine ⟨fun r r' name name' => Registrar.stem_and_name_of_registrationName, ?_,
    fun built base runs system hooks _ => Factory.make_offering_ne built base runs system hooks _⟩
  intro n r name hooks taken held refused own
  rcases (r.registers p.natives name hooks).of_duplicate refused with
    answered | ⟨rfl, new, known, there⟩
  · exact absurd answered own
  refine ⟨rfl, ?_⟩
  rcases run_puts turns there with atStart | ⟨before, turn, after, rfl, puts⟩
  · cases atStart
  generalize key : r.registrationName name = taken at puts
  cases puts with
  | directly driver free =>
    subst key
    exact .directly driver free
  | registering held' binds =>
    obtain ⟨stem, rfl⟩ := Registrar.stem_and_name_of_registrationName known binds.system key
    have free := binds.free
    have answered := binds.answer
    rw [← key, Registrar.registrationName] at free answered
    exact .registered (ne_of_new held' binds held (key ▸ new)) held' stem.symm free answered

/-- What a factory answers need not be so: nothing has bound the name that is said to be taken. -/
theorem refused_by_factory :
    let w : World Bench := ⟨Bench.empty, .empty, .empty⟩
    let turns : List (Turn Bench) :=
      [.found "db" (.observing fun _ => .error (.native (.duplicateDriver "db-sqlite")))]
    let p := run turns (fresh w .empty)
    ∃ r, p.registrars[0]? = some r ∧
      (r.register p.natives "sqlite" []).answer =
        .error (.native (.duplicateDriver "db-sqlite")) ∧
      p.natives.contains "db-sqlite" = false ∧
      ¬ Taken (fresh w .empty) 0 "db" "sqlite" turns := by
  intro w turns p
  refine ⟨_, rfl, rfl, rfl, ?_⟩
  -- the only turn neither binds nor registers anything
  have founds : ∀ turn ∈ turns, ∃ stem factory, turn = .found stem factory :=
    fun turn member => ⟨_, _, List.mem_singleton.mp member⟩
  intro taken
  generalize turns = only at founds taken
  cases taken with
  | directly driver free =>
    obtain ⟨_, _, same⟩ := founds _ (List.mem_append_right _ List.mem_cons_self)
    cases same
  | registered other held same free answered =>
    obtain ⟨_, _, same⟩ := founds _ (List.mem_append_right _ List.mem_cons_self)
    cases same

/-- Two registrars of one stem: what the first has registered is taken for the second. -/
theorem run_registrationNames_shared :
    let w : World Bench := ⟨Bench.empty, .empty, .empty⟩
    let turns : List (Turn Bench) := [.found "db" (Bench.embeddedFactory 0),
      .found "db" (Bench.embeddedFactory 1), .register 0 "sqlite" []]
    let p := run turns (fresh w .empty)
    ∃ r, p.registrars[1]? = some r ∧
      (r.register p.natives "sqlite" []).answer =
        .error (.native (.duplicateDriver "db-sqlite")) ∧
      Taken (fresh w .empty) 1 "db" "sqlite" turns := by
  intro w turns p
  obtain ⟨-, taken, offering⟩ := run_registrationNames turns w
  have refused : ∃ r : Registrar Bench, p.registrars[1]? = some r ∧ r.stem = "db" ∧
      r.factory.make = (Bench.embeddedFactory 1).make ∧
      (r.register p.natives "sqlite" []).answer =
        .error (.native (.duplicateDriver "db-sqlite")) := ⟨_, rfl, rfl, rfl, rfl⟩
  obtain ⟨r, held, stem, make, answered⟩ := refused
  refine ⟨r, held, answered, ?_⟩
  have own := offering (fun system => system = .sqlite) (Bench.embedded 1) r.factory.runs
    (.ofDriverName "sqlite") [] "db-sqlite"
  obtain ⟨-, how⟩ := taken 1 r "sqlite" [] "db-sqlite" held answered (by rw [make]; exact own)
  rwa [stem] at how

end Process
end DriverTelemetry
