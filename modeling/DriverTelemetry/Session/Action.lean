import DriverTelemetry.Configuration
import DriverTelemetry.Scripted.Driver

/-!
# Steps

What a session can be told to do. Handles are named; a result is kept under a name, where there is
one to keep.
-/
namespace DriverTelemetry

structure ContextSpec where
  seq : Option Nat
  /-- Whether a span of the caller is active in it. -/
  span : Bool
  deriving DecidableEq

def ContextSpec.empty : ContextSpec := ⟨none, false⟩

/-- What a registrar makes its base drivers with. -/
inductive FactoryKind where
  | scripted (capabilities : Capabilities)
  | refusing
  | embedded

inductive Creation where
  | driver (handle : String)
  | failing (text : String)

inductive Action where
  | standardBase (capabilities : Capabilities) (as : Option String)
  | scriptedBase (script : Scripted.Script) (as : Option String)
  | bareBase (base : String) (as : Option String)
  | embeddedBase (system : DatabaseSystem) (as : Option String)
  | planFault (on : String) (call : Option String) (err : Option DriverError)
  | observeDriver (base : String) (config : Configuration) (as : Option String)
  | baseOf (on : String) (as : Option String)
  | wrapConnector (base : Option String) (driver dsn : String) (as : Option String)
  | wrapConn (base dsn : String) (config : Configuration) (as : Option String)
  | wrapStmt (base dsn query baseQuery : String) (config : Configuration) (as : Option String)
  | wrapTx (base dsn : String) (config : Configuration) (as : Option String)
  | commitBase (on : String)
  | openConn (on dsn : String) (as : Option String)
  | openConnector (on dsn : String) (as : Option String)
  | connect (on : String) (as : Option String)
  | connectorDriver (on : String) (as : Option String)
  | capabilities (on : String)
  | prepare (on query : String) (as : Option String)
  | prepareContext (on query : String) (as : Option String)
  | exec (on query : String) (args : List Value)
  | execContext (on query : String) (args : List NamedValue)
  | query (on query : String) (args : List Value) (as : Option String)
  | queryContext (on query : String) (args : List NamedValue) (as : Option String)
  | begin (on : String) (as : Option String)
  | beginTx (on : String) (opts : TxOptions) (as : Option String)
  | ping (on : String)
  | resetSession (on : String)
  | close (on : String)
  | stmtExec (on : String) (args : List Value)
  | stmtExecContext (on : String) (args : List NamedValue)
  | stmtQuery (on : String) (args : List Value) (as : Option String)
  | stmtQueryContext (on : String) (args : List NamedValue) (as : Option String)
  | numInput (on : String)
  | stmtClose (on : String)
  | commit (on : String)
  | rollback (on : String)
  | next (on : String)
  | rowsClose (on : String)
  | columns (on : String)
  | register (driver name : String)
  | listDrivers
  | openDb (name dsn : String) (as : Option String)
  | connectDb (on : String) (as : Option String)
  | frontExec (on query : String) (args : List Value)
  | frontQuery (on query : String) (args : List Value) (as : Option String)
  | frontPrepare (on query : String) (as : Option String)
  | frontBegin (on : String) (opts : TxOptions) (as : Option String)
  | frontPing (on : String)
  | frontClose (on : String)
  | frontStmtExec (on : String) (args : List Value)
  | frontStmtQuery (on : String) (args : List Value) (as : Option String)
  | frontNumInput (on : String)
  | frontStmtClose (on : String)
  | makeRegistrar (factory : FactoryKind) (stem : Option String) (as : Option String)
  | registerObserved (on name : String) (hooks : List Hook)
  | factoryRuns (on : String)
  | registrationName (on name : String)
  | makeRegistry (as : Option String)
  | registryAdd (on name driver : String)
  | registryHas (on name : String)
  | registrySize (on : String)
  | registryGet (on name : String) (as : Option String)
  | registryGetOrInsert (on name : String) (creation : Creation)
  | registerProcessWide (name : String) (hooks : List Hook)

def Action.on? : Action → Option String
  | planFault on _ _ | baseOf on _ | commitBase on | openConn on _ _ | openConnector on _ _
  | connect on _ | connectorDriver on _ | capabilities on | prepare on _ _ | prepareContext on _ _
  | exec on _ _ | execContext on _ _ | query on _ _ _ | queryContext on _ _ _ | begin on _
  | beginTx on _ _ | ping on | resetSession on | close on | stmtExec on _ | stmtExecContext on _
  | stmtQuery on _ _ | stmtQueryContext on _ _ | numInput on | stmtClose on | commit on
  | rollback on | next on | rowsClose on | columns on | connectDb on _ | frontExec on _ _
  | frontQuery on _ _ _ | frontPrepare on _ _ | frontBegin on _ _ | frontPing on | frontClose on
  | frontStmtExec on _ | frontStmtQuery on _ _ | frontNumInput on | frontStmtClose on
  | registerObserved on _ _ | factoryRuns on | registrationName on _ | registryAdd on _ _
  | registryHas on _ | registrySize on | registryGet on _ _ | registryGetOrInsert on _ _ => some on
  | _ => none

structure Step where
  action : Action
  /-- The context that is handed to context-aware calls. -/
  ctx : ContextSpec
  /-- The context that is ambient while the step runs. -/
  current : ContextSpec

end DriverTelemetry
