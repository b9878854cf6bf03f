import DriverTelemetry.FrontEnd
import DriverTelemetry.Session.Bench

/-!
# Handles

What a session holds under a name. A statement or transaction may be watched: then the number of the
context it carries is reported with every step on it.
-/
namespace DriverTelemetry

inductive Handle where
  | driver (d : Driver Bench)
  | observedDriver (d : ObservedDriver Bench)
  | connector (c : Connector Bench)
  | conn (c : Conn Bench)
  | stmt (s : Stmt Bench) (watched : Bool)
  | tx (t : Tx Bench) (watched : Bool)
  | rows (r : Rows)
  | db (d : Db Bench)
  | connection (c : Conn Bench)
  | statement (s : Stmt Bench)
  | transaction (t : Tx Bench)
  /-- `counted` says whether the runs of the factory are told. -/
  | registrar (r : Registrar Bench) (counted : Bool)
  | registry (t : NameTable (ObservedDriver Bench))

namespace Handle

/-- The driver of a handle; that of a data source is the one it was opened with. -/
def driver? : Handle → Option (Driver Bench)
  | .driver d => some d
  | .observedDriver d => some d.driver
  | .db d => some d.driver
  | _ => none

def baseDriver? : Handle → Option (BaseDriver Bench)
  | .driver (.base d) => some d
  | _ => none

def observedDriver? : Handle → Option (ObservedDriver Bench)
  | .observedDriver d => some d
  | _ => none

def connector? : Handle → Option (Connector Bench)
  | .connector c => some c
  | _ => none

def conn? : Handle → Option (Conn Bench)
  | .conn c => some c
  | .connection c => some c
  | _ => none

def stmt? : Handle → Option (Stmt Bench)
  | .stmt s _ => some s
  | .statement s => some s
  | _ => none

def rows? : Handle → Option Rows
  | .rows r => some r
  | _ => none

def db? : Handle → Option (Db Bench)
  | .db d => some d
  | _ => none

def connection? : Handle → Option (Conn Bench)
  | .connection c => some c
  | _ => none

def statement? : Handle → Option (Stmt Bench)
  | .statement s => some s
  | _ => none

def registrar? : Handle → Option (Registrar Bench × Bool)
  | .registrar r counted => some (r, counted)
  | _ => none

/-- The registry of a registrar, or one that stands alone. -/
def registry? : Handle → Option (NameTable (ObservedDriver Bench))
  | .registrar r _ => some r.registry
  | .registry t => some t
  | _ => none

def withStmt (s : Stmt Bench) : Handle → Handle
  | .stmt _ watched => .stmt s watched
  | .statement _ => .statement s
  | h => h

def withTx (t : Tx Bench) : Handle → Handle
  | .tx _ watched => .tx t watched
  | .transaction _ => .transaction t
  | h => h

def withRegistry (t : NameTable (ObservedDriver Bench)) : Handle → Handle
  | .registrar r counted => .registrar { r with registry := t } counted
  | .registry _ => .registry t
  | h => h

def contexts : Handle → List Context
  | .stmt s _ => s.contexts
  | .statement s => s.contexts
  | .tx t _ => t.contexts
  | .transaction t => t.contexts
  | _ => []

/-- The number of the context that a watched handle carries. -/
def carried? : Handle → Option (Option Nat)
  | .stmt (.observed _ _ carried _) true => some carried.seq
  | .tx (.observed _ carried _) true => some carried.seq
  | _ => none

/-- What a handle offers beyond the mandatory, if it is of a sort that can. -/
def capabilities? (h : Handle) : Option Capabilities :=
  match h.driver?, h.conn?, h.stmt? with
  | some d, _, _ => some d.capabilities
  | _, some c, _ => some c.capabilities
  | _, _, some s => some s.capabilities
  | none, none, none => none

end Handle
end DriverTelemetry
