import DriverTelemetry.Proofs.Jobs

/-!
# Runs of jobs

A run of calls on the handles of an embedded connection does one job after the other, whichever
handles they are made on. Its outcomes can be told from the jobs and from the database alone.
-/
namespace DriverTelemetry

variable {σ : Type}

namespace Pool

open Embedded

section

variable {δ : Type} [Engine δ] (part : {α : Type} → Call (Databases δ) α → Call σ α) (id : BaseId)
  (system : DatabaseSystem) (n : Nat) (view : σ → Databases δ)

/-- The jobs that the turns of a run do on the database of connection `n`, each with its outcome, in
the order in which they are done. Whatever else happens keeps this database. -/
inductive Does : Pool σ → List (Turn σ) → List (Job × Outcome) → Prop where
  | nil (p : Pool σ) : Does p [] []
  | aside {p : Pool σ} {turn : Turn σ} {turns : List (Turn σ)} {log : List (Job × Outcome)}
      (keeps : (view (p.step turn).world.base)[n]? = (view p.world.base)[n]?)
      (rest : Does (p.step turn) turns log) : Does p (turn :: turns) log
  | call {p : Pool σ} {j : Nat} {t : Target σ} {site : Site} {call : BaseCall} {job : Job}
      {o : Outcome} {turns : List (Turn σ)} {log : List (Job × Outcome)}
      (held : p.targets[j]? = some t) (handle : At part id system n site t)
      (asked : site.job? system call = some (.ok job))
      (answered : Outcome.ofResponse? (t.perform call p.world).1.1 = some o)
      (rest : Does (p.step (.call j call)) turns log) :
      Does p (.call j call :: turns) ((job, o) :: log)

end

section

variable {δ : Type} [Engine δ] {part : {α : Type} → Call (Databases δ) α → Call σ α} {id : BaseId}
  {system : DatabaseSystem} {n : Nat} {view : σ → Databases δ} {p : Pool σ}

theorem Does.called (within : Within part view) {j : Nat} {t : Target σ} {site : Site}
    {call : BaseCall} {job : Job} (held : p.targets[j]? = some t)
    (handle : At part id system n site t) (asked : site.job? system call = some (.ok job))
    {turns : List (Turn σ)} {log : List (Job × Outcome)}
    (rest : Does part id system n view (p.step (.call j call)) turns log) :
    Does part id system n view p (.call j call :: turns)
      ((job, (job.on system n (view p.world.base)).1) :: log) :=
  .call held handle asked ((handle.serves within call p.world).answered job asked).1 rest

end

end Pool
end DriverTelemetry
