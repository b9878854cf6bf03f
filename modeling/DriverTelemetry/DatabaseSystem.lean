/-!
# Database systems

The system behind a driver, used for labels only, and the driver names that stand for one.
-/
namespace DriverTelemetry

inductive DatabaseSystem where
  | unknown | sqlite | mysql | postgres
  deriving DecidableEq

namespace DatabaseSystem

/-- Case is ignored among the ASCII letters only. -/
def ofDriverName (name : String) : DatabaseSystem :=
  let lower := name.toList.map Char.toLower
  if lower = "sqlite".toList ∨ lower = "sqlite3".toList then .sqlite
  else if lower = "mysql".toList then .mysql
  else if lower = "postgres".toList ∨ lower = "postgresql".toList ∨ lower = "pgx".toList then
    .postgres
  else .unknown

def name : DatabaseSystem → String
  | .unknown => "unknown"
  | .sqlite => "sqlite"
  | .mysql => "mysql"
  | .postgres => "postgres"

/-- The name that the conventions for span attributes give the system. -/
def attributeName : DatabaseSystem → String
  | .unknown => "other_sql"
  | .sqlite => "sqlite"
  | .mysql => "mysql"
  | .postgres => "postgresql"

def title : DatabaseSystem → String
  | .unknown => "Unknown"
  | .sqlite => "Sqlite"
  | .mysql => "MySql"
  | .postgres => "Postgres"

end DatabaseSystem
end DriverTelemetry
