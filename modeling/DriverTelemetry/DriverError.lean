/-!
# Driver errors

Why a call on a driver fails. `skip` is no failure of the call itself: it says that the driver has
no such method and that the caller should take its other way.
-/
namespace DriverTelemetry

inductive DriverError where
  | skip
  | badConn
  | namedParameters
  | unsupportedIsolation
  | readOnlyUnsupported
  | unsupported (feature : String)
  | backend (text : String)
  | message (text : String)
  deriving DecidableEq

namespace DriverError

/-- An error of the database itself shows its own text unchanged. -/
def display : DriverError → String
  | .skip => "driver: skip fast-path; continue as if unimplemented"
  | .badConn => "driver: bad connection"
  | .namedParameters => "sql: driver does not support the use of Named Parameters"
  | .unsupportedIsolation => "sql: driver does not support non-default isolation level"
  | .readOnlyUnsupported => "sql: driver does not support read-only transactions"
  | .unsupported feature => "driver: " ++ feature ++ " is not supported"
  | .backend text => text
  | .message text => text

def isSkip : DriverError → Bool
  | .skip => true
  | _ => false

end DriverError

abbrev Result (α : Type) := Except DriverError α

def Result.error? {α : Type} : Result α → Option DriverError
  | .ok _ => none
  | .error err => some err

theorem Result.of_map_eq_ok {α β : Type} {r : Result α} {f : α → β} {b : β} (h : r.map f = .ok b) :
    ∃ a, r = .ok a ∧ b = f a := by
  cases r with
  | error err => cases h
  | ok a =>
    cases h
    exact ⟨a, rfl, rfl⟩

end DriverTelemetry
