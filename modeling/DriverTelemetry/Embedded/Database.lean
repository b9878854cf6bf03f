import DriverTelemetry.Embedded.Command
import DriverTelemetry.Embedded.Engine

/-!
# The embedded database

One connection's own database in memory: a table that may not exist yet, and, while a transaction
is open, the contents that a rollback goes back to. A command is compiled against the tables of the
moment and judged by them each time it is run.
-/
namespace DriverTelemetry.Embedded

inductive Cell where
  | null
  | int (i : Int64)
  | float (x : Double)
  | text (s : String)
  | blob (bs : List UInt8)
  deriving DecidableEq

namespace Cell

/-- Truth values are stored as numbers, and what is no number as null. -/
def ofWire : Wire → Cell
  | .null _ => .null
  | .bool b => .int (if b then 1 else 0)
  | .smallint i => .int i
  | .integer i => .int i
  | .bigint i => .int i
  | .real x => if x.isNaN then .null else .float x
  | .double x => if x.isNaN then .null else .float x
  | .text s => .text s
  | .blob bs => .blob bs

/-- The kind as which a stored value arrives. -/
def toWire : Cell → Wire
  | .null => .null "NULL"
  | .int i => .bigint i
  | .float x => .double x
  | .text s => .text s
  | .blob bs => .blob bs

end Cell

structure Row where
  id : Nat
  bar : Cell
  deriving DecidableEq

/-- The table, once it has been created. -/
abbrev Contents := Option (List Row)

structure Tables where
  contents : Contents
  /-- The contents at the begin of the open transaction. -/
  saved : Option Contents
  lastInsertId : Nat
  /-- How many rows the last change touched. -/
  changes : Nat
  deriving DecidableEq

def Command.prepared (c : Command) : Prepared := ⟨c.inputs, c.inputs, c.columns⟩

namespace Tables

def empty : Tables := ⟨none, none, 0, 0⟩

def failed (text : String) : DriverError :=
  .backend ("error returned from database: (code: 1) " ++ text)

/-- The rows of the table, where a command may use it. -/
def rows? (d : Tables) : Result (List Row) :=
  match d.contents with
  | some rows => .ok rows
  | none => .error (failed "no such table: foo")

/-- Whether a command compiles against the tables of the moment. -/
def check (d : Tables) : Command → Result Unit
  | .createTable =>
    match d.contents with
    | some _ => .error (failed "table foo already exists")
    | none => .ok ()
  | .insert | .insertFirst | .update | .delete
  | .selectAll | .selectBar | .selectCount | .selectNone => d.rows?.map fun _ => ()
  | .onMissing => .error (failed "no such table: missing")
  | .broken word => .error (failed ("near \"" ++ word ++ "\": syntax error"))
  | .selectLastId | .echo _ | .begin | .commit | .rollback => .ok ()

/-- A placeholder without an argument is null, and an argument without a placeholder unused. -/
def argument (supply : Supply) (n : Nat) : Cell :=
  match supply.args[supply.used + n]? with
  | some w => Cell.ofWire w
  | none => .null

def nextId (rows : List Row) : Nat := rows.foldl (fun id row => max id row.id) 0 + 1

def change (d : Tables) (rows : List Row) (touched : Nat) : Tables :=
  { d with contents := some rows, changes := touched }

def selected (d : Tables) (supply : Supply) : Command → List (List Wire)
  | .selectAll => (d.contents.getD []).map fun row => [.bigint (Int64.ofNat row.id), row.bar.toWire]
  | .selectBar => (d.contents.getD []).map fun row => [row.bar.toWire]
  | .selectCount => [[.bigint (Int64.ofNat (d.contents.getD []).length)]]
  | .selectLastId => [[.bigint (Int64.ofNat d.lastInsertId)]]
  | .echo names => [(List.range names.length).map fun n => (argument supply n).toWire]
  | _ => []

/-- A new row under an id that is free, in its place. -/
def inserted (d : Tables) (id : Nat) (bar : Cell) : Tables :=
  let rows := d.contents.getD []
  let (lower, higher) := rows.partition fun row => row.id < id
  { d.change (lower ++ ⟨id, bar⟩ :: higher) 1 with lastInsertId := id }

/-- What a command does to a database on which it compiles. -/
def perform (d : Tables) (supply : Supply) : Command → Result Tables
  | .createTable => .ok { d with contents := some [] }
  | .insert => .ok (d.inserted (nextId (d.contents.getD [])) (argument supply 0))
  | .insertFirst =>
    if (d.contents.getD []).any fun row => row.id = 1 then
      .error (.backend
        "error returned from database: (code: 1555) UNIQUE constraint failed: foo.id")
    else .ok (d.inserted 1 (argument supply 0))
  | .update =>
    let rows := d.contents.getD []
    .ok (d.change (rows.map fun row => { row with bar := argument supply 0 }) rows.length)
  | .delete => .ok (d.change [] (d.contents.getD []).length)
  | .begin =>
    match d.saved with
    | some _ => .error (failed "cannot start a transaction within a transaction")
    | none => .ok { d with saved := some d.contents }
  | .commit =>
    match d.saved with
    | none => .error (failed "cannot commit - no transaction is active")
    | some _ => .ok { d with saved := none }
  | .rollback =>
    match d.saved with
    | none => .error (failed "cannot rollback - no transaction is active")
    | some contents => .ok { d with contents, saved := none }
  | .selectAll | .selectBar | .selectCount | .selectNone | .selectLastId | .echo _
  | .onMissing | .broken _ => .ok d

/-- A command that fails changes nothing, except that one of them rolls the transaction back. -/
def afterFailure (d : Tables) : Command → Tables
  | .insertFirst => { d with contents := d.saved.getD d.contents, saved := none, changes := 0 }
  | _ => d

/-- A command is checked against the tables of the moment whenever it is run. One that changes no
row tells how many rows the last change touched. -/
def run (d : Tables) (supply : Supply) (command : Command) : Result Answer × Tables :=
  match d.check command with
  | .error err => (.error err, d)
  | .ok () =>
    match d.perform supply command with
    | .error err => (.error err, d.afterFailure command)
    | .ok after => (.ok ⟨after.selected supply command, after.changes⟩, after)

instance : Engine Tables where
  empty := empty
  statements := Command.statements
  compile d text := (d.check (Command.ofText text)).map fun _ => (Command.ofText text).prepared
  perform d text _ supply := d.run supply (Command.ofText text)
  lastInsertId d := Int64.ofNat d.lastInsertId

end Tables

abbrev Database := Cached Tables

def Database.empty : Database := Cached.empty

end DriverTelemetry.Embedded
