import DriverTelemetry.DriverError
import DriverTelemetry.Value

/-!
# Values on the wire

A value is bound as a parameter of one kind, and a column arrives as one of several kinds. The
reader does not ask which one it is: it reads the column as one type after another until one fits.
The two do not mirror each other: a moment in time is bound as its text, and no type fits a
single-precision column.
-/
namespace DriverTelemetry.Embedded

inductive Wire where
  | null (kind : String)
  | bool (b : Bool)
  | smallint (i : Int64)
  | integer (i : Int64)
  | bigint (i : Int64)
  | real (x : Double)
  | double (x : Double)
  | text (s : String)
  | blob (bs : List UInt8)
  deriving DecidableEq

namespace Wire

/-- There is no parameter without a kind, so a null is bound as a text that is absent. -/
def ofValue : Value → Wire
  | .null => .null "TEXT"
  | .bool b => .bool b
  | .int i => .bigint i
  | .float x => .double x
  | .text s => .text s
  | .bytes bs => .blob bs
  | .timestamp t => .text (String.ofList t.render)

def bind (vs : List Value) : List Wire := vs.map ofValue

/-- The types as which a column can be read. -/
inductive Reading where
  | int | float | text | bytes | bool
  deriving DecidableEq

def readings : List Reading := [.int, .float, .text, .bytes, .bool]

def kindName : Wire → String
  | .null kind => kind
  | .bool _ => "BOOLEAN"
  | .smallint _ => "SMALLINT"
  | .integer _ => "INTEGER"
  | .bigint _ => "BIGINT"
  | .real _ => "REAL"
  | .double _ => "DOUBLE"
  | .text _ => "TEXT"
  | .blob _ => "BLOB"

/-- A column read as one type, and nothing where the type does not fit its kind. Every kind of
integer fits the integers, but of the floats only those of double precision fit theirs. Where there
is no value every type fits. -/
def read? : Wire → Reading → Option Value
  | .null _, _ => some .null
  | .bool b, .bool => some (.bool b)
  | .smallint i, .int => some (.int i)
  | .integer i, .int => some (.int i)
  | .bigint i, .int => some (.int i)
  | .double x, .float => some (.float x)
  | .text s, .text => some (.text s)
  | .blob bs, .bytes => some (.bytes bs)
  | _, _ => none

/-- Where no type fits, the error names the last one that was tried. -/
def mismatch (index : Nat) (kind : String) : DriverError :=
  .backend ("error occurred while decoding column " ++ toString index
    ++ ": mismatched types; Rust type `core::option::Option<bool>` is not compatible"
    ++ " with SQL type `" ++ kind ++ "`")

def toValue (index : Nat) (w : Wire) : Result Value :=
  match readings.findSome? w.read? with
  | some v => .ok v
  | none => .error (mismatch index w.kindName)

/-- Columns are numbered from `index`; the first that cannot be read fails the row. -/
def decodeFrom (index : Nat) : List Wire → Result (List Value)
  | [] => .ok []
  | w :: ws => do
    let v ← w.toValue index
    let vs ← decodeFrom (index + 1) ws
    return v :: vs

def decode (ws : List Wire) : Result (List Value) := decodeFrom 0 ws

end Wire
end DriverTelemetry.Embedded
