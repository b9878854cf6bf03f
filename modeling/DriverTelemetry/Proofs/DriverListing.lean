import DriverTelemetry.Proofs.ByteOrder
import DriverTelemetry.Proofs.RegistrationNames

/-!
# The listing of drivers

The native table lists the names of its drivers in ascending order, each once. A name comes into the
table by a native registration that succeeds, a direct one or that of a registrar, and it stays; so
after any run the listing has just these names, and they are the names that the registrations were
answered with. What is listed after direct registrations depends on their names only, not on their
order or on the drivers.
-/
namespace DriverTelemetry

variable {σ : Type}

namespace NameTable

variable {α : Type} {t t' : NameTable α}

theorem mem_sorted {name : String} : name ∈ t.sorted ↔ t.contains name = true := by
  rw [sorted, List.mem_mergeSort, contains_iff_mem]

theorem nodup_sorted (t : NameTable α) : t.sorted.Nodup :=
  (List.mergeSort_perm _ _).nodup_iff.mpr t.distinct

theorem sorted_ascending (t : NameTable α) : t.sorted.Pairwise (· < ·) := by
  have ordered : t.sorted.Pairwise fun x y => decide (x ≤ y) = true := by
    apply List.pairwise_mergeSort
    · intro x y z below below'
      exact decide_eq_true (le_trans (of_decide_eq_true below) (of_decide_eq_true below'))
    · intro x y
      simpa using le_total x y
  refine (ordered.and t.nodup_sorted).imp fun ⟨below, differs⟩ => ?_
  exact lt_of_le_of_ne (of_decide_eq_true below) differs

theorem sorted_congr (same : ∀ name, t.contains name = true ↔ t'.contains name = true) :
    t.sorted = t'.sorted := by
  have perm : t.sorted.Perm t'.sorted := by
    refine (List.perm_ext_iff_of_nodup t.nodup_sorted t'.nodup_sorted).mpr fun name => ?_
    rw [mem_sorted, mem_sorted, same]
  refine perm.eq_of_pairwise ?_ t.sorted_ascending t'.sorted_ascending
  intro x y _ _ less more
  exact absurd less more.asymm

end NameTable

namespace Process

/-- The turn registers this driver natively under this name, in the state that it meets and whether
or not the name is free: it does so directly, or it registers a name that is new to its registrar
and stands for a system, and the factory makes the driver. -/
inductive Attempts (p : Process σ) : Turn σ → String → Driver σ → Prop where
  | directly (name : String) (driver : Driver σ) : Attempts p (.bind name driver) name driver
  | registering {n : Nat} {r : Registrar σ} {name : String} {hooks : List Hook}
      {d : ObservedDriver σ} (held : p.registrars[n]? = some r)
      (new : r.registry.contains (r.registrationName name) = false)
      (system : DatabaseSystem.ofDriverName name ≠ .unknown)
      (made : r.factory.make r.factory.runs (.ofDriverName name) hooks = .ok d) :
      Attempts p (.register n name hooks) (r.registrationName name) d.driver

/-- The turn is a registration that succeeds and is told to be under this name, whether or not
anything is registered natively for it. -/
inductive Answered (p : Process σ) : Turn σ → String → Prop where
  | directly {name : String} {driver : Driver σ} {natives : NativeTable σ}
      (ok : p.natives.register name driver = .ok natives) : Answered p (.bind name driver) name
  | registering {n : Nat} {r : Registrar σ} {name : String} {hooks : List Hook}
      {registered : String} (held : p.registrars[n]? = some r)
      (ok : (r.register p.natives name hooks).answer = .ok registered) :
      Answered p (.register n name hooks) registered

section

variable {p : Process σ} {turn : Turn σ} {name : String}

theorem puts_iff : p.Puts name turn ↔
    ∃ driver natives, p.Attempts turn name driver ∧
      p.natives.register name driver = .ok natives := by
  constructor
  · intro puts
    cases puts with
    | directly driver free =>
      exact ⟨driver, _, .directly name driver, NativeTable.register_eq_ok.mpr ⟨free, rfl⟩⟩
    | registering held binds =>
      exact ⟨_, _, .registering held binds.new binds.system binds.made,
        NativeTable.register_eq_ok.mpr ⟨binds.free, rfl⟩⟩
  · rintro ⟨driver, natives, attempts, ok⟩
    have free := (NativeTable.register_eq_ok.mp ok).1
    cases attempts with
    | directly => exact .directly driver free
    | registering held new system made => exact .registering held ⟨new, system, made, free⟩

theorem Puts.answered (puts : p.Puts name turn) : p.Answered turn name := by
  cases puts with
  | directly driver free => exact .directly (NativeTable.register_eq_ok.mpr ⟨free, rfl⟩)
  | registering held binds => exact .registering held binds.answer

/-- A name that a turn is answered with is in the native table after it. Where a registrar had the
name already, this is because its registry is in step with the table. -/
theorem Answered.contains (answered : p.Answered turn name) (inStep : p.InStep) :
    (step turn p).natives.contains name = true := by
  cases answered with
  | directly ok => exact contains_bind.mpr (.inr rfl)
  | registering held ok =>
    obtain ⟨-, r', d, held', -, found⟩ := found_of_accepted held ok
    have bound := inStep.step _ r' (List.mem_of_getElem? held') _ _ found
    exact NameTable.contains_of_get? bound

end

theorem run_puts_fresh {turns : List (Turn σ)} {w : World σ} {name : String}
    (there : (run turns (fresh w .empty)).natives.contains name = true) :
    ∃ before turn after, turns = before ++ turn :: after ∧
      (run before (fresh w .empty)).Puts name turn := by
  rcases run_puts turns there with atStart | puts
  · cases atStart
  · exact puts

theorem contains_run {start : Process σ} (inStep : start.InStep) {name : String}
    {before after : List (Turn σ)} {turn : Turn σ}
    (answered : (run before start).Answered turn name) :
    (run (before ++ turn :: after) start).natives.contains name = true := by
  rw [run_append]
  exact (extends_run _ after).contains (answered.contains (inStep.run before))

def bindAll (bindings : List (String × Driver σ)) : List (Turn σ) :=
  bindings.map fun binding => .bind binding.1 binding.2

theorem contains_bindAll (bindings : List (String × Driver σ)) {p : Process σ} {name : String} :
    (run (bindAll bindings) p).natives.contains name = true ↔
      p.natives.contains name = true ∨ name ∈ bindings.map Prod.fst := by
  induction bindings generalizing p with
  | nil => simp [bindAll, run]
  | cons binding bindings ih =>
    have rest : (run (bindAll (binding :: bindings)) p).natives.contains name = true ↔ _ := ih
    rw [rest, contains_bind, List.map_cons, List.mem_cons, or_assoc]

/-- After any run of a process, the listing of the native table ascends strictly by the bytes of the
names, and has exactly the names of which a native registration has succeeded in the run, which are
the names that its registrations were answered with. Direct registrations that follow are listed
alike in whichever order they come, whatever their drivers are and whether or not the names
differ. -/
theorem run_listing (turns : List (Turn σ)) (w : World σ) :
    let start := fresh w .empty
    let p := run turns start
    p.natives.sorted.Pairwise (fun name other => Text.bytes name < Text.bytes other) ∧
    (∀ name, name ∈ p.natives.sorted ↔
      ∃ before turn after driver natives, turns = before ++ turn :: after ∧
        (run before start).Attempts turn name driver ∧
        (run before start).natives.register name driver = .ok natives) ∧
    (∀ name, name ∈ p.natives.sorted ↔
      ∃ before turn after, turns = before ++ turn :: after ∧
        (run before start).Answered turn name) ∧
    ∀ bindings bindings' : List (String × Driver σ),
      (∀ name, name ∈ bindings.map Prod.fst ↔ name ∈ bindings'.map Prod.fst) →
      (run (bindAll bindings) p).natives.sorted = (run (bindAll bindings') p).natives.sorted := by
  intro start p
  have inStep : start.InStep := inStep_fresh w .empty
  refine ⟨p.natives.sorted_ascending.imp Text.bytes_lt, fun name => ?_, fun name => ?_, ?_⟩
  · rw [NameTable.mem_sorted]
    constructor
    · intro there
      obtain ⟨before, turn, after, split, puts⟩ := run_puts_fresh there
      obtain ⟨driver, natives, succeeds⟩ := puts_iff.mp puts
      exact ⟨before, turn, after, driver, natives, split, succeeds⟩
    · rintro ⟨before, turn, after, driver, natives, rfl, succeeds⟩
      have puts := puts_iff.mpr ⟨driver, natives, succeeds⟩
      exact contains_run inStep puts.answered
  · rw [NameTable.mem_sorted]
    constructor
    · intro there
      obtain ⟨before, turn, after, split, puts⟩ := run_puts_fresh there
      exact ⟨before, turn, after, split, puts.answered⟩
    · rintro ⟨before, turn, after, rfl, answered⟩
      exact contains_run inStep answered
  · intro bindings bindings' same
    refine NameTable.sorted_congr fun name => ?_
    rw [contains_bindAll, contains_bindAll, same]

/-- What a registrar has registered, which is then refused to others, is listed with two names that
are registered directly in either order. -/
theorem run_listing_swapped :
    let w : World Bench := ⟨Bench.empty, .empty, .empty⟩
    let p := run [.found "db" (Bench.embeddedFactory 0), .register 0 "sqlite" [],
      .bind "db-sqlite" (Bench.embedded 1 .sqlite)] (fresh w .empty)
    let one : String × Driver Bench := ("db", Bench.embedded 1 .sqlite)
    let other : String × Driver Bench := ("über", Bench.embedded 2 .sqlite)
    (run (bindAll [one, other]) p).natives.sorted = ["db", "db-sqlite", "über"] ∧
      (run (bindAll [other, one]) p).natives.sorted = ["db", "db-sqlite", "über"] := by
  intro w p one other
  obtain ⟨-, -, -, alike⟩ := run_listing [.found "db" (Bench.embeddedFactory 0),
    .register 0 "sqlite" [], .bind "db-sqlite" (Bench.embedded 1 .sqlite)] w
  have names : (run (bindAll [one, other]) p).natives.names = ["db-sqlite", "db", "über"] := by
    decide
  have listed : (run (bindAll [one, other]) p).natives.sorted = ["db", "db-sqlite", "über"] := by
    rw [NameTable.sorted, names]
    simp [List.mergeSort]
  have same := alike [one, other] [other, one] (by simp [or_comm])
  exact ⟨listed, same ▸ listed⟩

end Process
end DriverTelemetry
