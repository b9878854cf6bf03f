import DriverTelemetry.NativeTable

/-!
# Registration

A registrar turns a driver name into an observed driver for the system behind that name, and binds
it in the native table under its stem and the name. The first registration of a name stays: later
ones answer with it and ignore their hooks. A registration that fails binds nothing anywhere.
-/
namespace DriverTelemetry

inductive RegistrationError where
  | unsupportedSystem (name : String)
  | factoryUnsupported (system : DatabaseSystem)
  | native (err : SqlError)
  deriving DecidableEq

def RegistrationError.display : RegistrationError → String
  | .unsupportedSystem name => "unsupported database system for driver " ++ name
  | .factoryUnsupported system => "no base driver available for " ++ system.name
  | .native err => err.display

/-- Makes the observed driver of a system, to be observed by the hooks that it is handed. What it
makes may depend on how often it has been run. -/
structure Factory (σ : Type) where
  runs : Nat
  make : Nat → DatabaseSystem → List Hook → Except RegistrationError (ObservedDriver σ)

structure Registrar (σ : Type) where
  stem : String
  registry : NameTable (ObservedDriver σ)
  factory : Factory σ

structure Registration (σ : Type) where
  answer : Except RegistrationError String
  registrar : Registrar σ
  natives : NativeTable σ
  logs : List LogRecord

namespace Factory

variable {σ : Type}

def run (f : Factory σ) (system : DatabaseSystem) (hooks : List Hook) :
    Except RegistrationError (ObservedDriver σ) × Factory σ :=
  (f.make f.runs system hooks, { f with runs := f.runs + 1 })

/-- A factory that has a base driver for some systems, and observes it as it is told to. -/
def observing (base : DatabaseSystem → Except RegistrationError (Driver σ)) : Factory σ :=
  ⟨0, fun _ system hooks => (base system).map fun inner => ⟨⟨system, hooks⟩, inner⟩⟩

/-- A factory with the base driver of every system that it was built with. -/
def offering (built : DatabaseSystem → Bool) (base : DatabaseSystem → Driver σ) : Factory σ :=
  observing fun system =>
    if built system then .ok (base system) else .error (.factoryUnsupported system)

def refusing : Factory σ := observing fun system => .error (.factoryUnsupported system)

end Factory

namespace Registrar

variable {σ : Type}

def standardStem : String := "sqlhooks"

def ofFactory (stem : String) (factory : Factory σ) : Registrar σ :=
  ⟨stem, NameTable.empty, factory⟩

def registrationName (r : Registrar σ) (name : String) : String := r.stem ++ "-" ++ name

def known (name registered : String) : LogRecord where
  level := .debug
  target := "sqlhooks::registration"
  message := "Driver already registered"
  fields := [("driver", .text name), ("registered", .text registered)]

def made (name registered : String) (system : DatabaseSystem) (config : Configuration) :
    LogRecord where
  level := .info
  target := "sqlhooks::registration"
  message := "Registered instrumented driver"
  fields := [("driver", .text name), ("registered", .text registered),
    ("system", .text system.name), ("hooks", .int config.hooks.length)]

/-- The means of a registration: the factory, the native table and what has been logged. -/
structure Means (σ : Type) where
  factory : Factory σ
  natives : NativeTable σ
  logs : List LogRecord

/-- Makes the observed driver of a name and binds it in the native table. An unknown system is
found out before the factory runs, and a bound name after it. -/
def create (name registered : String) (hooks : List Hook) (m : Means σ) :
    Except RegistrationError (ObservedDriver σ) × Means σ :=
  let system := DatabaseSystem.ofDriverName name
  if system = .unknown then (.error (.unsupportedSystem name), m)
  else
    let (created, factory) := m.factory.run system hooks
    match created with
    | .error err => (.error err, { m with factory })
    | .ok driver =>
      match m.natives.register registered driver.driver with
      | .error err => (.error (.native err), { m with factory })
      | .ok natives =>
        (.ok driver, ⟨factory, natives, m.logs ++
          [NativeTable.registered registered, made name registered system driver.config]⟩)

def register (r : Registrar σ) (natives : NativeTable σ) (name : String) (hooks : List Hook) :
    Registration σ :=
  let registered := r.registrationName name
  if r.registry.contains registered then ⟨.ok registered, r, natives, [known name registered]⟩
  else
    let (driver, registry, m) :=
      r.registry.getOrInsert registered (create name registered hooks) ⟨r.factory, natives, []⟩
    ⟨driver.map fun _ => registered, { r with registry, factory := m.factory }, m.natives, m.logs⟩

end Registrar
end DriverTelemetry
