/-!
# Operations

The driver calls that are observed, each with its canonical name. A name that is none of these is
the name of the unknown operation.
-/
namespace DriverTelemetry

inductive Operation where
  | connBegin | connBeginTx | connExec | connExecContext | connQuery | connQueryContext
  | connPrepare | connPrepareContext | connPing | connResetSession | connClose
  | txCommit | txRollback
  | stmtExec | stmtExecContext | stmtQuery | stmtQueryContext
  | unknown
  deriving DecidableEq

namespace Operation

/-- Every operation with a canonical name, in the order in which they are listed. -/
def all : List Operation :=
  [.connBegin, .connBeginTx, .connExec, .connExecContext, .connQuery, .connQueryContext,
   .connPrepare, .connPrepareContext, .connPing, .connResetSession, .connClose,
   .txCommit, .txRollback,
   .stmtExec, .stmtExecContext, .stmtQuery, .stmtQueryContext]

def name : Operation → String
  | .connBegin => "connection:begin"
  | .connBeginTx => "connection:begin-tx"
  | .connExec => "connection:exec"
  | .connExecContext => "connection:exec-context"
  | .connQuery => "connection:query"
  | .connQueryContext => "connection:query-context"
  | .connPrepare => "connection:prepare"
  | .connPrepareContext => "connection:prepare-context"
  | .connPing => "connection:ping"
  | .connResetSession => "connection:reset-session"
  | .connClose => "connection:close"
  | .txCommit => "transaction:commit"
  | .txRollback => "transaction:rollback"
  | .stmtExec => "statement:exec"
  | .stmtExecContext => "statement:exec-context"
  | .stmtQuery => "statement:query"
  | .stmtQueryContext => "statement:query-context"
  | .unknown => "unknown"

def ofName (name : String) : Operation :=
  (all.find? fun op => op.name = name).getD .unknown

theorem ofName_name (op : Operation) : ofName op.name = op := by
  cases op <;> decide

theorem name_injective {op other : Operation} (h : op.name = other.name) : op = other := by
  rw [← ofName_name op, h, ofName_name]

end Operation
end DriverTelemetry
