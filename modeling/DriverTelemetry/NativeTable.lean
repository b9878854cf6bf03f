import DriverTelemetry.Driver.Opening
import DriverTelemetry.NameTable
import DriverTelemetry.Text.Quoted

/-!
# The table of native drivers

Drivers are registered by name, once each, and looked up by the front-end.
-/
namespace DriverTelemetry

inductive SqlError where
  | duplicateDriver (name : String)
  | unknownDriver (name : String)
  | driver (err : DriverError)
  deriving DecidableEq

def SqlError.display : SqlError → String
  | .duplicateDriver name => "sql: register called twice for driver " ++ name
  | .unknownDriver name =>
    "sql: unknown driver " ++ Text.quoted name ++ " (forgotten registration?)"
  | .driver err => err.display

abbrev NativeTable (σ : Type) := NameTable (Driver σ)

namespace NativeTable

variable {σ : Type}

def registered (name : String) : LogRecord where
  level := .debug
  target := "sqlhooks::sql"
  message := "Registered native driver"
  fields := [("driver", .text name)]

def register (t : NativeTable σ) (name : String) (driver : Driver σ) :
    Except SqlError (NativeTable σ) :=
  if t.contains name then .error (.duplicateDriver name) else .ok (t.insert name driver)

def lookup (t : NativeTable σ) (name : String) : Except SqlError (Driver σ) :=
  match t.get? name with
  | some driver => .ok driver
  | none => .error (.unknownDriver name)

theorem register_eq_ok {t t' : NativeTable σ} {name : String} {driver : Driver σ} :
    t.register name driver = .ok t' ↔ t.contains name = false ∧ t' = t.insert name driver := by
  cases bound : t.contains name with
  | true => simp [register, bound]
  | false => simp [register, bound, eq_comm]

theorem lookup_map (f : String → Driver σ → Driver σ) (t : NativeTable σ) (name : String) :
    lookup (t.map f) name = (t.lookup name).map (f name) := by
  unfold lookup
  rw [NameTable.get?_map]
  cases t.get? name <;> rfl

theorem mem_entries_of_lookup {t : NativeTable σ} {name : String} {driver : Driver σ}
    (h : t.lookup name = .ok driver) : (name, driver) ∈ t.entries := by
  unfold lookup at h
  split at h
  · next found =>
    cases h
    exact NameTable.mem_entries_of_get? found
  · cases h

/-- The same names, each for its driver under the configuration of that name. -/
def observed (config : String → Configuration) (t : NativeTable σ) : NativeTable σ :=
  t.map fun name driver => .observed (config name) driver

end NativeTable
end DriverTelemetry
