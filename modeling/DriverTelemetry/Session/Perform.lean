import DriverTelemetry.Session

/-!
# Performing steps

What each action does to a session under the context that its step asks for, and the step as a
whole: its effects are those that follow the effects of the steps before.
-/
namespace DriverTelemetry

/-- A plan for one call is kept only where calls are listed in full; any other base driver fails all
its calls or none. -/
def Scripted.FaultPlan.change (listing : Listing) (call : Option String)
    (err : Option DriverError) (plan : Scripted.FaultPlan) : Scripted.FaultPlan :=
  match listing, call with
  | .details, some name => if name = "*" then plan.setAny err else plan.setCall name err
  | _, _ => plan.setAny err

namespace Act

variable {α : Type}

def calling (run : Run Bench (Result α)) : Act α := do
  orDriver (← world run)

/-- A call through the front-end whose error is the error of the step. -/
def callingFront (run : Run Bench (FrontEnd.Answer α)) : Act α := do
  orSql (← world run)

def addScripted (listing : Listing) (script : Scripted.Script) (as : Option String) :
    Act Reply := do
  let id ← newBase listing as
  keepQuietly as (.driver (Bench.scripted id script))

def planFault (on : String) (call : Option String) (err : Option DriverError) : Act Reply := do
  let d ← baseDriverOf on
  match (← get).bases[d.id]? with
  | some info =>
    modify (Session.planFault d.id (Scripted.FaultPlan.change info.listing call err))
    return .nothing
  | none => throw (.badInput "not a driver")

def observeDriver (base : String) (config : Configuration) (as : Option String) : Act Reply := do
  let inner ← driverOf base
  let d : ObservedDriver Bench := ⟨config, inner⟩
  keep as (.observedDriver d)
  return .text d.display

def wrapConnector (base : Option String) (driver dsn : String) (as : Option String) :
    Act Reply := do
  let owner ← observedDriverOf driver
  match base with
  | some name => do
    let inner ← connectorOf name
    keep as (.connector (.observed owner.config owner.inner inner))
  | none => keep as (.connector (.reopening owner.config owner.inner dsn))
  return .wrappedConnector base.isSome

def openBase (base dsn : String) : Act (Conn Bench) := do
  let d ← driverOf base
  calling (d.openConn dsn)

def wrapConn (base dsn : String) (config : Configuration) (as : Option String) : Act Reply := do
  let c ← openBase base dsn
  keep as (.conn (.observed config c))
  return .wrappedConn config.system config.hooks.length c.exec?.isSome

def wrapStmt (base dsn query baseQuery : String) (config : Configuration) (as : Option String)
    (ctx : Context) : Act Reply := do
  let c ← openBase base dsn
  let s ← calling (c.prepare baseQuery)
  world (World.exchange [ctx] [])
  keep as (.stmt (.observed config query ctx s) true)
  return .wrappedStmt query ctx.seq s.numInput

def wrapTx (base dsn : String) (config : Configuration) (as : Option String) (ctx : Context) :
    Act Reply := do
  let c ← openBase base dsn
  let t ← calling c.begin
  world (World.exchange [ctx] [])
  keep as (.tx (.observed config ctx t) true)
  return .wrappedTx ctx.seq

def onTx (on : String) (call : Tx Bench → Run Bench (Result Unit × Tx Bench)) : Act Reply := do
  match (← get).handle? on with
  | none => throw (.noHandle on)
  | some (.tx t _) => do
    let (result, t) ← world (call t)
    update on (Handle.withTx t)
    orDriver result
    return .nothing
  | some (.transaction t) => do
    let (result, t) ← world (call t)
    update on (Handle.withTx t)
    orSql (FrontEnd.answer result)
    return .nothing
  | some _ => throw (.badInput "not a transaction")

def commitInner : Tx Bench → Run Bench (Result Unit × Tx Bench)
  | .base t => (Tx.base t).commit
  | .observed config carried inner => do
    let (result, inner) ← inner.commit
    return (result, .observed config carried inner)

def makeRegistrar (factory : FactoryKind) (stem : Option String) (as : Option String) :
    Act Reply := do
  let stem := stem.getD Registrar.standardStem
  let h : Handle ← match factory with
    | .scripted capabilities => do
      let id ← newBase .names as
      let made := Bench.scriptedFactory id (Scripted.Script.standard capabilities)
      pure (.registrar (Registrar.ofFactory stem made) true)
    | .refusing => pure (.registrar (Registrar.ofFactory stem Factory.refusing) true)
    | .embedded => do
      let id ← newBase .hidden as
      pure (.registrar (Registrar.ofFactory stem (Bench.embeddedFactory id)) false)
  keep as h
  return .text stem

def registerObserved (on name : String) (hooks : List Hook) : Act Reply := do
  let (r, counted) ← registrarOf on
  let done := r.register (← get).natives name hooks
  modify fun s => { s with natives := done.natives }
  update on fun _ => .registrar done.registrar counted
  world (World.log done.logs)
  let registered ← orRegistration done.answer
  return .text registered

/-- What the process-wide registrar logs is not part of the session. -/
def registerProcessWide (name : String) (hooks : List Hook) : Act Reply := do
  let s ← get
  let done := s.process.register s.processNatives name hooks
  set { s with process := done.registrar, processNatives := done.natives }
  let registered ← orRegistration done.answer
  return .processWide registered (done.registrar.registry.contains registered)
    (done.natives.contains registered)

def registerNative (driver name : String) : Act Reply := do
  let d ← driverOf driver
  let natives ← orSql ((← get).natives.register name d)
  modify fun s => { s with natives }
  world (World.log [NativeTable.registered name])
  return .nothing

def registryGetOrInsert (on name : String) (creation : Creation) : Act Reply := do
  let t ← registryOf on
  let outcome : Except String (ObservedDriver Bench) ← match creation with
    | .driver handle => do
      let d ← observedDriverOf handle
      pure (.ok d)
    | .failing text => pure (.error text)
  let (result, t, ran) := t.getOrInsert name (fun _ => (outcome, true)) false
  update on (Handle.withRegistry t)
  return .gotOrInserted ran (result.map ObservedDriver.display)

def perform (ctx : Context) : Action → Act Reply
  | .standardBase capabilities as => addScripted .names (Scripted.Script.standard capabilities) as
  | .scriptedBase script as => addScripted .details script as
  | .bareBase base as => do
    let d ← baseDriverOf base
    keepQuietly as (.driver (.base d.bare))
  | .embeddedBase system as => do
    let id ← newBase .hidden as
    keep as (.driver (Bench.embedded id system))
    return .text system.name
  | .planFault on call err => Act.planFault on call err
  | .observeDriver base config as => Act.observeDriver base config as
  | .baseOf on as => do
    let d ← observedDriverOf on
    keepQuietly as (.driver d.inner)
  | .wrapConnector base driver dsn as => Act.wrapConnector base driver dsn as
  | .wrapConn base dsn config as => Act.wrapConn base dsn config as
  | .wrapStmt base dsn query baseQuery config as =>
    Act.wrapStmt base dsn query baseQuery config as ctx
  | .wrapTx base dsn config as => Act.wrapTx base dsn config as ctx
  | .commitBase on => onTx on commitInner
  | .openConn on dsn as => do
    let c ← openBase on dsn
    keepQuietly as (.conn c)
  | .openConnector on dsn as => do
    let method ← offered (← driverOf on).openConnector?
    let c ← calling (method dsn)
    keepQuietly as (.connector c)
  | .connect on as => do
    let c ← calling ((← connectorOf on).connect ctx)
    keepQuietly as (.conn c)
  | .connectorDriver on as => do
    keepQuietly as (.driver (← connectorOf on).driver)
  | .capabilities on => do
    let cs ← find "not a driver" Handle.capabilities? on
    return .capabilities (cs.map Capability.name)
  | .prepare on query as => do
    let s ← calling ((← connOf on).prepare query)
    keepQuietly as (.stmt s false)
  | .prepareContext on query as => do
    let method ← offered (← connOf on).prepareContext?
    let s ← calling (method ctx query)
    keepQuietly as (.stmt s false)
  | .exec on query args => do
    let method ← offered (← connOf on).exec?
    return .summary (← calling (method query args))
  | .execContext on query args => do
    let method ← offered (← connOf on).execContext?
    return .summary (← calling (method ctx query args))
  | .query on query args as => do
    let method ← offered (← connOf on).query?
    rowsReply as (← calling (method query args))
  | .queryContext on query args as => do
    let method ← offered (← connOf on).queryContext?
    rowsReply as (← calling (method ctx query args))
  | .begin on as => do
    let t ← calling (← connOf on).begin
    keepQuietly as (.tx t false)
  | .beginTx on opts as => do
    let method ← offered (← connOf on).beginTx?
    let t ← calling (method ctx opts)
    keepQuietly as (.tx t false)
  | .ping on => do
    let method ← offered (← connOf on).ping?
    calling (method ctx)
    return .nothing
  | .resetSession on => do
    let method ← offered (← connOf on).resetSession?
    calling (method ctx)
    return .nothing
  | .close on => do
    calling (← connOf on).close
    return .nothing
  | .stmtExec on args => do
    let result ← onStmt on ((← stmtOf on).exec args)
    return .summary (← orDriver result)
  | .stmtExecContext on args => do
    let method ← offered (← stmtOf on).execContext?
    let result ← onStmt on (method ctx args)
    return .summary (← orDriver result)
  | .stmtQuery on args as => do
    let result ← onStmt on ((← stmtOf on).query args)
    rowsReply as (← orDriver result)
  | .stmtQueryContext on args as => do
    let method ← offered (← stmtOf on).queryContext?
    let result ← onStmt on (method ctx args)
    rowsReply as (← orDriver result)
  | .numInput on => do
    return .optionalNumber (← stmtOf on).numInput
  | .stmtClose on => do
    calling (← stmtOf on).close
    return .nothing
  | .commit on => onTx on Tx.commit
  | .rollback on => onTx on Tx.rollback
  | .next on => do
    let (row, r) := (← rowsOf on).next
    update on fun _ => .rows r
    match ← orDriver row with
    | some values => return .row values
    | none => return .endOfRows
  | .rowsClose on => do
    let r ← rowsOf on
    update on fun _ => .rows r.close
    return .nothing
  | .columns on => do
    return .names (← rowsOf on).columns
  | .register driver name => registerNative driver name
  | .listDrivers => do
    return .names (← get).natives.sorted
  | .openDb name dsn as => do
    let db ← callingFront (FrontEnd.openDb (← get).natives name dsn)
    keepQuietly as (.db db)
  | .connectDb on as => do
    let c ← callingFront (FrontEnd.connect (← dbOf on) ctx)
    keepQuietly as (.connection c)
  | .frontExec on query args => do
    return .summary (← callingFront (FrontEnd.exec (← connectionOf on) ctx query args))
  | .frontQuery on query args as => do
    rowsReply as (← callingFront (FrontEnd.query (← connectionOf on) ctx query args))
  | .frontPrepare on query as => do
    let s ← callingFront (FrontEnd.prepare (← connectionOf on) ctx query)
    keepQuietly as (.statement s)
  | .frontBegin on opts as => do
    let t ← callingFront (FrontEnd.begin (← connectionOf on) ctx opts)
    keepQuietly as (.transaction t)
  | .frontPing on => do
    callingFront (FrontEnd.ping (← connectionOf on) ctx)
    return .nothing
  | .frontClose on => do
    callingFront (FrontEnd.close (← connectionOf on))
    return .nothing
  | .frontStmtExec on args => do
    let result ← onStmt on (FrontEnd.execStmt (← statementOf on) ctx args)
    return .summary (← orSql result)
  | .frontStmtQuery on args as => do
    let result ← onStmt on (FrontEnd.queryStmt (← statementOf on) ctx args)
    rowsReply as (← orSql result)
  | .frontNumInput on => do
    return .optionalNumber (← statementOf on).numInput
  | .frontStmtClose on => do
    callingFront (FrontEnd.closeStmt (← statementOf on))
    return .nothing
  | .makeRegistrar factory stem as => Act.makeRegistrar factory stem as
  | .registerObserved on name hooks => Act.registerObserved on name hooks
  | .factoryRuns on => do
    let (r, counted) ← registrarOf on
    return .number (if counted then r.factory.runs else 0)
  | .registrationName on name => do
    let (r, _) ← registrarOf on
    return .text (r.registrationName name)
  | .makeRegistry as => keepQuietly as (.registry NameTable.empty)
  | .registryAdd on name driver => do
    let t ← registryOf on
    let d ← observedDriverOf driver
    update on (Handle.withRegistry (t.insert name d))
    return .nothing
  | .registryHas on name => do
    return .flag ((← registryOf on).contains name)
  | .registrySize on => do
    return .size (← registryOf on).size
  | .registryGet on name as => do
    match (← registryOf on).get? name with
    | some d => do
      keep as (.observedDriver d)
      return .text d.display
    | none => return .nothing
  | .registryGetOrInsert on name creation => Act.registryGetOrInsert on name creation
  | .registerProcessWide name hooks => Act.registerProcessWide name hooks

end Act

namespace Session

/-- Performs a step and tells what happened meanwhile. The contexts that the step asks for are given
up at its end. -/
def step (step : Step) (s : Session) : StepAnswer × Session :=
  let before := s.world.telemetry.effects.length
  let (ambient, t) := s.world.telemetry.callerContext step.current.seq step.current.span
  let (ctx, t) := t.callerContext step.ctx.seq step.ctx.span
  let begun := { s with world := { s.world with telemetry := t, ambient } }
  let (reply, s) := (Act.perform ctx step.action).run begun
  let telemetry := s.world.telemetry.exchange [] [ambient, ctx]
  let s := { s with world := { s.world with telemetry } }
  let handle := step.action.on?.bind s.handle?
  (⟨reply, s.world.telemetry.effects.drop before, handle.bind Handle.carried?⟩, s)

def run : List Step → Session → List (StepAnswer × Session)
  | [], _ => []
  | first :: rest, s =>
    let (answer, s) := step first s
    (answer, s) :: run rest s

end Session
end DriverTelemetry
