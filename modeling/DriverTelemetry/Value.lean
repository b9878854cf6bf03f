import DriverTelemetry.Double.Shortest
import DriverTelemetry.Text.Quoted
import DriverTelemetry.Timestamp

/-!
# Values

What a driver takes as an argument and returns in a column, and its text in log records and spans.
-/
namespace DriverTelemetry

inductive Value where
  | null
  | bool (b : Bool)
  | int (i : Int64)
  | float (x : Double)
  | text (s : String)
  | bytes (bs : List UInt8)
  | timestamp (t : Timestamp)
  deriving DecidableEq

namespace Value

/-- Equality as the program sees it: floats are compared as numbers, all else by identity. -/
def equal : Value → Value → Bool
  | .float x, .float y => x.equal y
  | a, b => a == b

/-- Bytes are shown by their count alone. -/
def render : Value → List Char
  | .null => ['N', 'U', 'L', 'L']
  | .bool true => ['t', 'r', 'u', 'e']
  | .bool false => ['f', 'a', 'l', 's', 'e']
  | .int i => Decimal.integer i.toInt
  | .float x => x.render
  | .text s => Text.quotedChars s.toList
  | .bytes bs => '<' :: Decimal.natural bs.length ++ [' ', 'b', 'y', 't', 'e', 's', '>']
  | .timestamp t => t.render

def display (v : Value) : String := String.ofList v.render

/-- An integer of 32 bits; a wider one keeps its low bits. -/
def ofInt32 (i : Int64) : Value := .int i.toInt32.toInt64

end Value
end DriverTelemetry
