import DriverTelemetry.Value
import DriverTelemetry.DriverError

/-!
# Results

What an exec and a query return. The figures of an exec may each be unknown to the driver. A query
returns a cursor over rows that are all in memory; closing it drops the rest of them.
-/
namespace DriverTelemetry

structure ExecSummary where
  lastInsertId : Option Int64
  rowsAffected : Option Int64
  deriving DecidableEq

namespace ExecSummary

def lastInsertId? (s : ExecSummary) : Result Int64 :=
  match s.lastInsertId with
  | some id => .ok id
  | none => .error (.unsupported "LastInsertId")

def rowsAffected? (s : ExecSummary) : Result Int64 :=
  match s.rowsAffected with
  | some rows => .ok rows
  | none => .error (.unsupported "RowsAffected")

theorem lastInsertId?_eq_ok {s : ExecSummary} {id : Int64} :
    s.lastInsertId? = .ok id ↔ s.lastInsertId = some id := by
  cases h : s.lastInsertId <;> simp [lastInsertId?, h]

theorem rowsAffected?_eq_ok {s : ExecSummary} {rows : Int64} :
    s.rowsAffected? = .ok rows ↔ s.rowsAffected = some rows := by
  cases h : s.rowsAffected <;> simp [rowsAffected?, h]

end ExecSummary

structure Rows where
  columns : List String
  /-- The rows that have not been handed out. -/
  rest : List (List Value)
  closed : Bool
  deriving DecidableEq

namespace Rows

def ofList (columns : List String) (rows : List (List Value)) : Rows := ⟨columns, rows, false⟩

def next (r : Rows) : Result (Option (List Value)) × Rows :=
  if r.closed then (.error (.message "sql: Rows are closed"), r)
  else
    match r.rest with
    | [] => (.ok none, r)
    | row :: rest => (.ok (some row), { r with rest })

/-- Closing succeeds in every state. -/
def close (r : Rows) : Rows := { r with rest := [], closed := true }

theorem next_of_closed {r : Rows} (h : r.closed = true) :
    r.next = (.error (.message "sql: Rows are closed"), r) := by
  simp [next, h]

theorem next_of_empty {r : Rows} (h : r.closed = false) (empty : r.rest = []) :
    r.next = (.ok none, r) := by
  simp [next, h, empty]

theorem next_of_cons {r : Rows} {row : List Value} {rest : List (List Value)}
    (h : r.closed = false) (rows : r.rest = row :: rest) :
    r.next = (.ok (some row), { r with rest }) := by
  simp [next, h, rows]

theorem columns_next (r : Rows) : r.next.2.columns = r.columns := by
  unfold next
  split
  · rfl
  · split <;> rfl

@[simp] theorem columns_close (r : Rows) : r.close.columns = r.columns := rfl

@[simp] theorem closed_close (r : Rows) : r.close.closed = true := rfl

end Rows
end DriverTelemetry
