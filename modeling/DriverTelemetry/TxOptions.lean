import DriverTelemetry.DriverError
import DriverTelemetry.DatabaseSystem

/-!
# Transaction options

The isolation level and access mode a caller asks for, and the statements that open such a
transaction in each dialect.
-/
namespace DriverTelemetry

inductive Isolation where
  | default | readUncommitted | readCommitted | repeatableRead | serializable
  deriving DecidableEq

/-- The default level has no spelling: the database chooses it. -/
def Isolation.sql? : Isolation → Option String
  | .default => none
  | .readUncommitted => some "READ UNCOMMITTED"
  | .readCommitted => some "READ COMMITTED"
  | .repeatableRead => some "REPEATABLE READ"
  | .serializable => some "SERIALIZABLE"

structure TxOptions where
  isolation : Isolation
  readOnly : Bool
  deriving DecidableEq

namespace TxOptions

def plain : TxOptions := ⟨.default, false⟩

/-- A legacy begin takes no options, so only the default ones pass; isolation is checked first. -/
def ensureLegacy (opts : TxOptions) : Result Unit :=
  if opts.isolation ≠ .default then .error .unsupportedIsolation
  else if opts.readOnly then .error .readOnlyUnsupported
  else .ok ()

theorem ensureLegacy_eq_ok {opts : TxOptions} :
    opts.ensureLegacy = .ok () ↔ opts.isolation = .default ∧ opts.readOnly = false := by
  unfold ensureLegacy
  split
  · next isolated => simp [isolated]
  · next plain => cases opts.readOnly <;> simp [Decidable.not_not.mp plain]

def accessMode (opts : TxOptions) : String := if opts.readOnly then " READ ONLY" else ""

/-- SQLite runs every transaction as serializable and may always write in it. -/
def beginStatements (system : DatabaseSystem) (opts : TxOptions) : Result (List String) :=
  match system with
  | .postgres =>
    let level := match opts.isolation.sql? with
      | some level => " ISOLATION LEVEL " ++ level
      | none => ""
    .ok ["BEGIN" ++ level ++ opts.accessMode]
  | .mysql =>
    let level := match opts.isolation.sql? with
      | some level => ["SET TRANSACTION ISOLATION LEVEL " ++ level]
      | none => []
    .ok (level ++ ["START TRANSACTION" ++ opts.accessMode])
  | .sqlite | .unknown =>
    if opts.isolation ≠ .default ∧ opts.isolation ≠ .serializable then
      .error .unsupportedIsolation
    else if opts.readOnly then .error .readOnlyUnsupported
    else .ok ["BEGIN"]

end TxOptions
end DriverTelemetry
