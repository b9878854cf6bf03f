/-!
# Log records

A record has a level, the component that wrote it, a message and named fields in order. A field
that is absent is left out.
-/
namespace DriverTelemetry

inductive Level where
  | trace | debug | info | warn | error
  deriving DecidableEq

namespace Level

def all : List Level := [.trace, .debug, .info, .warn, .error]

def name : Level → String
  | .trace => "trace"
  | .debug => "debug"
  | .info => "info"
  | .warn => "warn"
  | .error => "error"

end Level

inductive Field where
  | text (s : String)
  | int (i : Int)
  deriving DecidableEq

structure LogRecord where
  level : Level
  target : String
  message : String
  fields : List (String × Field)
  deriving DecidableEq

/-- A field that is left out when there is nothing to write. -/
def optionalField (name : String) (value : Option Field) : List (String × Field) :=
  match value with
  | some field => [(name, field)]
  | none => []

end DriverTelemetry
