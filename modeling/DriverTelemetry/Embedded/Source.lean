import DriverTelemetry.Address
import DriverTelemetry.DriverError
import DriverTelemetry.Text.Quoted

/-!
# Data source names

A data source name is an address. Only connecting tells whether there is a driver for its scheme,
whether its parameters are known, and whether there is such a database: there are none but those
in memory.
-/
namespace DriverTelemetry.Embedded

structure Source where
  address : Address
  deriving DecidableEq

namespace Source

def misconfigured (text : String) : DriverError := .backend ("error with configuration: " ++ text)

def ofText (dsn : String) : Result Source :=
  match Address.ofText dsn with
  | .ok address => .ok ⟨address⟩
  | .error fault => .error (misconfigured fault.message)

/-- A parameter is a name and a value, with plus signs for spaces. -/
def decodeParameter (cs : List Char) : List Char :=
  let spaced := cs.map fun c => if c = '+' then ' ' else c
  (Address.percentDecoded? spaced).getD spaced

def parameter (cs : List Char) : List Char × List Char :=
  let name := cs.takeWhile fun c => c ≠ '='
  (decodeParameter name, decodeParameter (cs.drop (name.length + 1)))

/-- The parameters after the question mark, separated by ampersands. -/
def parameters (cs : List Char) : List (List Char × List Char) :=
  ((cs.splitOn '&').filter fun part => !part.isEmpty).map parameter

/-- The parameters that are known, with the values that they may have. -/
def known : List (String × List String) :=
  [("mode", ["ro", "rw", "rwc", "memory"]), ("cache", ["private", "shared"]),
    ("immutable", ["true", "1", "false", "0"])]

def checkParameter (p : List Char × List Char) : Result Unit :=
  let name := String.ofList p.1
  let value := String.ofList p.2
  match known.find? fun entry => entry.1 = name with
  | some (_, values) =>
    if values.contains value then .ok ()
    else .error (misconfigured
      ("unknown value " ++ Text.quoted value ++ " for \x60" ++ name ++ "\x60"))
  | none =>
    if name = "vfs" then .ok ()
    else .error (misconfigured
      ("unknown query parameter \x60" ++ name ++ "\x60 while parsing connection URL"))

def checkParameters : List (List Char × List Char) → Result Unit
  | [] => .ok ()
  | p :: ps =>
    match checkParameter p with
    | .ok () => checkParameters ps
    | .error err => .error err

/-- The database that an address names: all up to its parameters, without two slashes. -/
def database (s : Source) : List Char :=
  let name := s.address.rest.takeWhile fun c => c ≠ '?'
  if name.take 2 = ['/', '/'] then name.drop 2 else name

/-- A database that is there once it is asked for. -/
def isOffered (database : List Char) (ps : List (List Char × List Char)) : Bool :=
  database = [] || database = ":memory:".toList ||
    ps.any fun p => p.1 = "mode".toList && (p.2 = "memory".toList || p.2 = "rwc".toList)

/-- Only one scheme has a driver, and no database is there before it is asked for. -/
def check (s : Source) : Result Unit :=
  if s.address.scheme = "sqlite" then
    let ps := parameters ((s.address.rest.dropWhile fun c => c ≠ '?').drop 1)
    match checkParameters ps with
    | .error err => .error err
    | .ok () =>
      if isOffered s.database ps then .ok ()
      else .error
        (.backend "error returned from database: (code: 14) unable to open database file")
  else .error
    (misconfigured ("no driver found for URL scheme \"" ++ s.address.scheme ++ "\""))

end Source
end DriverTelemetry.Embedded
