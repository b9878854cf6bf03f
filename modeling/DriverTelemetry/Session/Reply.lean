import DriverTelemetry.Registration
import DriverTelemetry.Rows

/-!
# Replies

What a step answers: a reply of one of a few sorts, or the cause for which it failed.
-/
namespace DriverTelemetry

inductive StepError where
  | badInput (text : String)
  | noHandle (name : String)
  | noCapability
  | driver (err : DriverError)
  | sql (err : SqlError)
  | registration (err : RegistrationError)

def StepError.display : StepError → String
  | .badInput text => text
  | .noHandle name => name
  | .noCapability => "the handle does not offer this capability"
  | .driver err => err.display
  | .sql err => err.display
  | .registration err => err.display

inductive Reply where
  | nothing
  | text (s : String)
  | number (n : Nat)
  | optionalNumber (n : Option Nat)
  | flag (b : Bool)
  | names (ns : List String)
  | capabilities (cs : List String)
  | summary (s : ExecSummary)
  | columns (cs : List String)
  | table (columns : List String) (rows : List (List Value))
  | row (values : List Value)
  | endOfRows
  | wrappedConnector (hasBase : Bool)
  | wrappedConn (system : DatabaseSystem) (hooks : Nat) (baseExecer : Bool)
  | wrappedStmt (text : String) (carried baseNumInput : Option Nat)
  | wrappedTx (carried : Option Nat)
  | size (n : Nat)
  | gotOrInserted (ran : Bool) (result : Except String String)
  | processWide (name : String) (has native : Bool)

end DriverTelemetry
