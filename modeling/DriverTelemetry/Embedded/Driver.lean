import DriverTelemetry.Driver.Base
import DriverTelemetry.Embedded.Database
import DriverTelemetry.Embedded.Source

/-!
# The driver of the embedded database

Every connection has a database of its own, which its statements and transactions share. A closed
connection has none any more, so whatever still holds on to it finds a bad connection; closing it
again and closing its statements keep succeeding. The system that the driver is made for only labels
it, chooses the statements that begin a transaction and whether the last insert id is reported.

The driver is stated over any engine, and over any state that has the open databases as a part:
`part` runs a call on that part.
-/
namespace DriverTelemetry.Embedded

namespace Cached

variable {δ : Type} [Engine δ]

/-- The figures of an exec, with the last insert id where it can be read back. -/
def figures (system : DatabaseSystem) (changes : Nat) (d : Cached δ) : ExecSummary × Cached δ :=
  if system = .sqlite then
    let (id, d) := d.readBack
    (⟨some id, some (Int64.ofNat changes)⟩, d)
  else (⟨none, some (Int64.ofNat changes)⟩, d)

def exec (system : DatabaseSystem) (text : String) (args : List Value) (d : Cached δ) :
    Result ExecSummary × Cached δ :=
  match d.run text (Wire.bind args) with
  | (.error err, d) => (.error err, d)
  | (.ok fetched, d) =>
    let (summary, d) := figures system fetched.changes d
    (.ok summary, d)

def decodeRows (rows : List (List Wire)) : Result (List (List Value)) := rows.mapM Wire.decode

/-- The columns of an answer are those of its first row, or without any row those that preparing
its text tells. -/
def columns (d : Cached δ) (text : String) (fetched : Fetched) :
    Result (List String) × Cached δ :=
  match fetched.rows with
  | row :: _ => (.ok row.1, d)
  | [] =>
    let (prepared, d) := d.prepare text
    (prepared.map Prepared.columns, d)

def query (text : String) (args : List Value) (d : Cached δ) : Result Rows × Cached δ :=
  match d.run text (Wire.bind args) with
  | (.error err, d) => (.error err, d)
  | (.ok fetched, d) =>
    match columns d text fetched with
    | (.error err, d) => (.error err, d)
    | (.ok names, d) =>
      ((decodeRows (fetched.rows.map Prod.snd)).map (Rows.ofList names), d)

/-- Runs texts without arguments that are not remembered; the first that fails ends it. -/
def script : List String → Cached δ → Result Unit × Cached δ
  | [], d => (.ok (), d)
  | text :: texts, d =>
    match d.execute text with
    | (.error err, d) => (.error err, d)
    | (.ok _, d) => script texts d

@[simp] theorem inside_figures (system : DatabaseSystem) (changes : Nat) (d : Cached δ) :
    (figures system changes d).2.inside = d.inside := by
  unfold figures
  split
  · exact inside_readBack d
  · rfl

@[simp] theorem inside_columns (d : Cached δ) (text : String) (fetched : Fetched) :
    (d.columns text fetched).2.inside = d.inside := by
  unfold columns
  split
  · rfl
  · exact inside_prepare d text

@[simp] theorem inside_exec (system : DatabaseSystem) (text : String) (args : List Value)
    (d : Cached δ) :
    (exec system text args d).2.inside = (d.run text (Wire.bind args)).2.inside := by
  unfold exec
  split
  · next ran => rw [ran]
  · next fetched after ran =>
    rw [ran]
    exact inside_figures system fetched.changes after

@[simp] theorem inside_query (text : String) (args : List Value) (d : Cached δ) :
    (query text args d).2.inside = (d.run text (Wire.bind args)).2.inside := by
  unfold query
  split
  · next ran => rw [ran]
  · next fetched after ran =>
    have told := inside_columns after text fetched
    rw [ran]
    split <;> next columns => rw [columns] at told; exact told

end Cached

/-- The databases by the number of their connection, and nothing where it was closed. -/
abbrev Databases (δ : Type) := List (Option (Cached δ))

abbrev Store := Databases Tables

namespace Store

section

variable {δ α : Type}

def onDatabase (n : Nat) (f : Cached δ → Result α × Cached δ) : Call (Databases δ) α := fun store =>
  match store[n]? with
  | some (some d) =>
    let (r, d) := f d
    (r, store.set n (some d))
  | _ => (.error .badConn, store)

def close (n : Nat) : Call (Databases δ) Unit := fun store => (.ok (), store.set n none)

def ping (n : Nat) : Call (Databases δ) Unit := onDatabase n fun d => (.ok (), d)

end

variable {δ : Type} [Engine δ]

def connect : Call (Databases δ) Nat := fun store =>
  (.ok store.length, store ++ [some Cached.empty])

def prepare (n : Nat) (text : String) : Call (Databases δ) Prepared :=
  onDatabase n fun d => d.prepare text

def exec (system : DatabaseSystem) (n : Nat) (text : String) (args : List Value) :
    Call (Databases δ) ExecSummary := onDatabase n (Cached.exec system text args)

def query (n : Nat) (text : String) (args : List Value) : Call (Databases δ) Rows :=
  onDatabase n (Cached.query text args)

def script (n : Nat) (texts : List String) : Call (Databases δ) Unit :=
  onDatabase n (Cached.script texts)

end Store

section

variable {σ δ : Type} [Engine δ] (part : {α : Type} → Call (Databases δ) α → Call σ α)
  (id : BaseId) (system : DatabaseSystem)

/-- Refuses what cannot be done before the call on the database. -/
def refuseFirst {α β : Type} (r : Result α) (call : α → Call σ β) : Call σ β :=
  match r with
  | .error err => throw err
  | .ok a => call a

def stmt (n : Nat) (text : String) (prepared : Prepared) : BaseStmt σ where
  id
  numInput := some prepared.inputs
  close := pure ()
  exec args := part (Store.exec system n text args)
  query args := part (Store.query n text args)
  execContext := some fun _ args =>
    refuseFirst (NamedValue.toValues args) fun values => part (Store.exec system n text values)
  queryContext := some fun _ args =>
    refuseFirst (NamedValue.toValues args) fun values => part (Store.query n text values)

def tx (n : Nat) : BaseTx σ where
  id
  commit := part (Store.script n ["COMMIT"])
  rollback := part (Store.script n ["ROLLBACK"])

def prepareStmt (n : Nat) (text : String) : Call σ (BaseStmt σ) := do
  let prepared ← part (Store.prepare n text)
  return stmt part id system n text prepared

def beginTx (n : Nat) (opts : TxOptions) : Call σ (BaseTx σ) :=
  refuseFirst (opts.beginStatements system) fun texts => do
    part (Store.script n texts)
    return tx part id n

def conn (n : Nat) : BaseConn σ where
  id
  prepare text := prepareStmt part id system n text
  close := part (Store.close n)
  begin := beginTx part id system n TxOptions.plain
  exec := some fun text args => part (Store.exec system n text args)
  execContext := some fun _ text args =>
    refuseFirst (NamedValue.toValues args) fun values => part (Store.exec system n text values)
  query := some fun text args => part (Store.query n text args)
  queryContext := some fun _ text args =>
    refuseFirst (NamedValue.toValues args) fun values => part (Store.query n text values)
  prepareContext := some fun _ text => prepareStmt part id system n text
  beginTx := some fun _ opts => beginTx part id system n opts
  ping := some fun _ => part (Store.ping n)
  resetSession := some fun _ => part (Store.ping n)

/-- What is logged before the scheme is looked at. -/
def opening : LogRecord where
  level := .debug
  target := "sqlhooks::drivers::any"
  message := "Opening sqlx connection"
  fields := [("system", .text system.name)]

def connect (source : Source) : Call σ (BaseConn σ) :=
  refuseFirst source.check fun _ => do
    let n ← part Store.connect
    return conn part id system n

def connector (source : Source) : BaseConnector σ where
  id
  announces := [opening system]
  connect _ := connect part id system source

def driver : BaseDriver σ where
  id
  announces dsn :=
    match Source.ofText dsn with
    | .ok _ => [opening system]
    | .error _ => []
  openConn dsn := refuseFirst (Source.ofText dsn) (connect part id system)
  openConnector := some fun dsn =>
    refuseFirst (Source.ofText dsn) fun source => return connector part id system source

end

end DriverTelemetry.Embedded
