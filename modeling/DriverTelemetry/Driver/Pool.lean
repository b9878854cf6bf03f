import DriverTelemetry.Driver.Observation

/-!
# Pools of handles

Calls follow each other in any order on any number of handles, which are numbered as they come
about: connections that are opened somewhere, and the statements and transactions that the calls
create. A pool keeps a list of the calls that the hooks were told of.
-/
namespace DriverTelemetry

/-- A call that the hooks were told of. -/
structure Firing where
  handle : Nat
  /-- The number of the handle that the call created. -/
  created : Option Nat
  /-- The call that was made inside. -/
  made : BaseCall
  /-- What the last hook before the call returned. -/
  exit : Context

namespace Firing

def concerns (n : Nat) (f : Firing) : Bool := f.handle = n

def creates (n : Nat) (f : Firing) : Bool := f.created = some n

/-- What the last hook returned in the latest call on a handle, or in the call that created it when
there was none on it yet. -/
def exitOf (n : Nat) (fs : List Firing) : Option Context :=
  ((fs.reverse.find? (concerns n)).or (fs.find? (creates n))).map Firing.exit

/-- What the call that created a handle was given as its query. -/
def textOf (n : Nat) (fs : List Firing) : Option String :=
  (fs.find? (creates n)).map fun f => f.made.text

end Firing

structure Pool (σ : Type) where
  world : World σ
  targets : List (Target σ)
  firings : List Firing

variable {σ : Type}

namespace Target

def wrapper? : Target σ → Option (Wrapper σ)
  | .conn (.observed config inner) => some (.conn config inner)
  | .stmt (.observed config text carried inner) => some (.stmt config text carried inner)
  | .tx (.observed config carried inner) => some (.tx config carried inner)
  | _ => none

/-- The call that is made inside where the hooks are told of a call, and what the last of them
returns before it. -/
def told? (t : Target σ) (call : BaseCall) (w : World σ) : Option (BaseCall × Context) :=
  match t.wrapper? with
  | none => none
  | some x =>
    match x.treatment call with
    | .reported made =>
      let entry := x.entry call w.ambient
      some (made, (x.config.before entry (x.event made) w.telemetry).1)
    | _ => none

end Target

namespace Pool

inductive Turn (σ : Type) where
  /-- Anything may happen to the base drivers, the telemetry and the ambient context. -/
  | elsewhere (change : World σ → World σ)
  | connected (c : Conn σ)
  | call (n : Nat) (call : BaseCall)

def fresh (w : World σ) : Pool σ := ⟨w, [], []⟩

def perform (p : Pool σ) (n : Nat) (t : Target σ) (call : BaseCall) : Pool σ :=
  let ((r, left), w) := t.perform call p.world
  let created := r.target?
  let told := (t.told? call p.world).map fun (made, exit) =>
    ⟨n, created.map fun _ => p.targets.length, made, exit⟩
  { world := w
    targets := p.targets.set n left ++ created.toList
    firings := p.firings ++ told.toList }

def step (turn : Turn σ) (p : Pool σ) : Pool σ :=
  match turn with
  | .elsewhere change => { p with world := change p.world }
  | .connected c => { p with targets := p.targets ++ [.conn c] }
  | .call n call =>
    match p.targets[n]? with
    | some t => p.perform n t call
    | none => p

def run : List (Turn σ) → Pool σ → Pool σ
  | [], p => p
  | turn :: turns, p => run turns (step turn p)

end Pool
end DriverTelemetry
