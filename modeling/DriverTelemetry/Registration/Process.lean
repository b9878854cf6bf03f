import DriverTelemetry.FrontEnd
import DriverTelemetry.Registration

/-!
# Processes

In a process any number of registrars share one native table, in which drivers are also bound
directly and from which data sources are opened. The registry of a registrar changes only when
something is registered with it.
-/
namespace DriverTelemetry

structure Process (σ : Type) where
  world : World σ
  natives : NativeTable σ
  /-- The registrars are numbered as they come about. -/
  registrars : List (Registrar σ)

namespace Process

variable {σ : Type}

inductive Turn (σ : Type) where
  /-- A new registrar, with nothing registered yet. -/
  | found (stem : String) (factory : Factory σ)
  | register (n : Nat) (name : String) (hooks : List Hook)
  /-- Binds a driver in the native table without any registrar. -/
  | bind (name : String) (driver : Driver σ)
  | openDb (name dsn : String)

def fresh (w : World σ) (natives : NativeTable σ) : Process σ := ⟨w, natives, []⟩

def log (records : List LogRecord) (p : Process σ) : Process σ :=
  { p with world := (World.log records p.world).2 }

def register (n : Nat) (r : Registrar σ) (name : String) (hooks : List Hook) (p : Process σ) :
    Process σ :=
  let done := r.register p.natives name hooks
  log done.logs { p with natives := done.natives, registrars := p.registrars.set n done.registrar }

def step (turn : Turn σ) (p : Process σ) : Process σ :=
  match turn with
  | .found stem factory =>
    { p with registrars := p.registrars ++ [Registrar.ofFactory stem factory] }
  | .register n name hooks =>
    match p.registrars[n]? with
    | some r => p.register n r name hooks
    | none => p
  | .bind name driver =>
    match p.natives.register name driver with
    | .ok natives => log [NativeTable.registered name] { p with natives }
    | .error _ => p
  | .openDb name dsn => { p with world := (FrontEnd.openDb p.natives name dsn p.world).2 }

def run : List (Turn σ) → Process σ → Process σ
  | [], p => p
  | turn :: turns, p => run turns (step turn p)

end Process
end DriverTelemetry
