import DriverTelemetry.Session.Action
import DriverTelemetry.Session.Handle
import DriverTelemetry.Session.Reply

/-!
# Sessions

A session holds handles under names and runs one step after the other on them. A step that fails
binds no name, and a handle that the name had before stays; what the step did until then has
happened. The answer to a step comes with the effects it had.
-/
namespace DriverTelemetry

/-- How the calls on a base driver are listed. -/
inductive Listing where
  | names | details | hidden
  deriving DecidableEq

structure BaseInfo where
  name : String
  listing : Listing
  deriving DecidableEq

structure Session where
  world : World Bench
  /-- The newest handle of a name comes first. -/
  handles : List (String × Handle)
  /-- The base drivers by their numbers. -/
  bases : List BaseInfo
  natives : NativeTable Bench
  /-- The registrar of the whole process, with a native table that no session sees. -/
  process : Registrar Bench
  processNatives : NativeTable Bench

/-- A part of a step: it may fail, and what it did until then stays done. -/
abbrev Act (α : Type) := ExceptT StepError (StateM Session) α

structure StepAnswer where
  reply : Except StepError Reply
  effects : List Effect
  /-- For a step on a watched handle, the number of the context that it carries after the step. -/
  carried : Option (Option Nat)

namespace Session

/-- The number of the base driver of the process-wide registrar, which belongs to no session. -/
def processBase : BaseId := 0

def fresh : Session where
  world := ⟨⟨[Scripted.FaultPlan.none], []⟩, Telemetry.empty, Context.empty⟩
  handles := []
  bases := [⟨"", .hidden⟩]
  natives := NameTable.empty
  process := Registrar.ofFactory Registrar.standardStem (Bench.embeddedFactory processBase)
  processNatives := NameTable.empty

def handle? (s : Session) (name : String) : Option Handle :=
  (s.handles.find? fun entry => entry.1 = name).map Prod.snd

def bindHandle (name : String) (h : Handle) (s : Session) : Session :=
  { s with handles := (name, h) :: s.handles.filter fun entry => entry.1 ≠ name }

def mapFaults (change : Scripted.FaultPlans → Scripted.FaultPlans) (s : Session) : Session :=
  let base := { s.world.base with faults := change s.world.base.faults }
  { s with world := { s.world with base } }

/-- A number for a new base driver, for which no error is planned. -/
def addBase (info : BaseInfo) (s : Session) : BaseId × Session :=
  (s.bases.length,
    { s.mapFaults (· ++ [Scripted.FaultPlan.none]) with bases := s.bases ++ [info] })

def planFault (id : BaseId) (change : Scripted.FaultPlan → Scripted.FaultPlan) (s : Session) :
    Session :=
  s.mapFaults fun plans => plans.modify id change

end Session

namespace Act

variable {α β : Type}

def world (run : Run Bench α) : Act α := fun s =>
  let (a, w) := run.run s.world
  (.ok a, { s with world := w })

def orDriver (r : Result α) : Act α :=
  match r with
  | .ok a => return a
  | .error err => throw (.driver err)

def orSql (r : Except SqlError α) : Act α :=
  match r with
  | .ok a => return a
  | .error err => throw (.sql err)

def orRegistration (r : Except RegistrationError α) : Act α :=
  match r with
  | .ok a => return a
  | .error err => throw (.registration err)

/-- A handle, read as one of the sort that a step needs. -/
def find (otherwise : String) (read : Handle → Option α) (name : String) : Act α := do
  match (← get).handle? name with
  | none => throw (.noHandle name)
  | some h =>
    match read h with
    | some a => return a
    | none => throw (.badInput otherwise)

def driverOf : String → Act (Driver Bench) := find "not a driver" Handle.driver?

def baseDriverOf : String → Act (BaseDriver Bench) := find "not a driver" Handle.baseDriver?

def observedDriverOf : String → Act (ObservedDriver Bench) :=
  find "not an instrumented driver" Handle.observedDriver?

def connectorOf : String → Act (Connector Bench) := find "not a connector" Handle.connector?

def connOf : String → Act (Conn Bench) := find "not a connection" Handle.conn?

def stmtOf : String → Act (Stmt Bench) := find "not a statement" Handle.stmt?

def dbOf : String → Act (Db Bench) := find "not a db" Handle.db?

def connectionOf : String → Act (Conn Bench) := find "not a connection" Handle.connection?

def statementOf : String → Act (Stmt Bench) := find "not a statement" Handle.statement?

def registrarOf : String → Act (Registrar Bench × Bool) := find "not a registrar" Handle.registrar?

def registryOf : String → Act (NameTable (ObservedDriver Bench)) :=
  find "not a registry" Handle.registry?

def rowsOf : String → Act Rows := find "not rows" Handle.rows?

def offered (method : Option α) : Act α :=
  match method with
  | some m => return m
  | none => throw .noCapability

def update (name : String) (change : Handle → Handle) : Act Unit :=
  modify fun s =>
    match s.handle? name with
    | some h => s.bindHandle name (change h)
    | none => s

/-- A handle that is no longer kept gives up its contexts. -/
def discard (h : Handle) : Act Unit := world (World.exchange [] h.contexts)

/-- Keeps a result under a name, in the place of the handle that the name had before. -/
def keep (as : Option String) (h : Handle) : Act Unit := do
  match as with
  | some name => do
    let old := (← get).handle? name
    modify (Session.bindHandle name h)
    old.forM discard
  | none => do
    discard h
    throw (.badInput "string field as")

def keepQuietly (as : Option String) (h : Handle) : Act Reply := do
  keep as h
  return .nothing

def newBase (listing : Listing) (as : Option String) : Act BaseId :=
  modifyGet (Session.addBase ⟨as.getD "", listing⟩)

/-- Rows are all read at once, unless a name is given to keep the cursor under. -/
def rowsReply (as : Option String) (r : Rows) : Act Reply :=
  match as with
  | none => return .table r.columns r.rest
  | some name => do
    keep name (.rows r)
    return .columns r.columns

/-- A call on a statement, whose handle keeps the statement as the call has left it. -/
def onStmt (on : String) (call : Run Bench (α × Stmt Bench)) : Act α := do
  let (a, s) ← world call
  update on (Handle.withStmt s)
  return a

end Act

end DriverTelemetry
