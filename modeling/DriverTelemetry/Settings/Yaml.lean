import DriverTelemetry.Decimal.Digits
import DriverTelemetry.Double.Reading
import DriverTelemetry.Double.Shortest

/-!
# YAML documents

A document is a tree of tables, lists and scalars. An unquoted scalar is read as the first of these
that fits: an integer, a null, a truth value, a number, a text. A quoted one is always a text. The
name of an entry may be any scalar but null, and stands for its text.
-/
namespace DriverTelemetry.Settings

inductive Scalar where
  | null
  | bool (b : Bool)
  | int (i : Int64)
  | float (x : Double)
  | text (s : String)
  deriving DecidableEq

inductive Yaml where
  | scalar (s : Scalar)
  | list (items : List Yaml)
  | table (entries : List (String × Yaml))

namespace Scalar

def digitValue? (c : Char) : Option Nat :=
  if '0' ≤ c ∧ c ≤ '9' then some (c.toNat - 48)
  else if 'a' ≤ c ∧ c ≤ 'f' then some (c.toNat - 87)
  else if 'A' ≤ c ∧ c ≤ 'F' then some (c.toNat - 55)
  else none

/-- The value of digits to a base of at most sixteen, the most significant first. -/
def ofBase? (base : Nat) : List Char → Nat → Option Nat
  | [], n => some n
  | c :: cs, n =>
    match digitValue? c with
    | some d => if d < base then ofBase? base cs (base * n + d) else none
    | none => none

/-- An integer to a base, with an optional sign; the value has to fit 64 bits. -/
def radix? (base : Nat) (cs : List Char) : Option Int64 := do
  let magnitude (ds : List Char) : Option Nat := if ds.isEmpty then none else ofBase? base ds 0
  let value : Int ← match cs with
    | '-' :: ds => (magnitude ds).map fun n => -(n : Int)
    | '+' :: ds => (magnitude ds).map Int.ofNat
    | ds => (magnitude ds).map Int.ofNat
  if Int64.minValue.toInt ≤ value ∧ value ≤ Int64.maxValue.toInt then some (Int64.ofInt value)
  else none

/-- An integer with an announced base or sign. -/
def marked? : List Char → Option Int64
  | '0' :: 'x' :: ds => radix? 16 ds
  | '0' :: 'o' :: ds => radix? 8 ds
  | '+' :: ds => Decimal.int64? ds
  | _ => none

def unbounded : List (List Char) :=
  [".inf", ".Inf", ".INF", "+.inf", "+.Inf", "+.INF", "-.inf", "-.Inf", "-.INF", ".nan", "NaN",
    ".NAN"].map String.toList

def asText : Scalar → String
  | .null => "null"
  | .bool true => "true"
  | .bool false => "false"
  | .int i => String.ofList (Decimal.integer i.toInt)
  | .float x => String.ofList x.render
  | .text s => s

end Scalar

/-- A scalar as it stands in a document. A number keeps its spelling. -/
inductive Atom where
  | null
  | bool (b : Bool)
  | int (i : Int64)
  | number (spelling : List Char)
  | text (s : List Char)
  deriving DecidableEq

namespace Atom

def ofPlain (cs : List Char) : Atom :=
  match Scalar.marked? cs with
  | some i => .int i
  | none =>
    if cs = [] ∨ cs = ['~'] ∨ cs = "null".toList then .null
    else if cs = "true".toList ∨ cs = "True".toList ∨ cs = "TRUE".toList then .bool true
    else if cs = "false".toList ∨ cs = "False".toList ∨ cs = "FALSE".toList then .bool false
    else
      match Decimal.int64? cs with
      | some i => .int i
      | none =>
        if cs ∈ Scalar.unbounded || (Double.ofText? cs).isSome then .number cs else .text cs

/-- The value of a scalar. A number that no decimal numeral or plain word spells has none. -/
def scalar? : Atom → Option Scalar
  | .null => some .null
  | .bool b => some (.bool b)
  | .int i => some (.int i)
  | .number spelling => (Double.ofText? spelling).map Scalar.float
  | .text s => some (.text (String.ofList s))

/-- A scalar as the name of an entry; null is no name. -/
def name? : Atom → Option String
  | .null => none
  | .bool b => some (if b then "true" else "false")
  | .int i => some (String.ofList (Decimal.integer i.toInt))
  | .number spelling => some (String.ofList spelling)
  | .text s => some (String.ofList s)

end Atom
end DriverTelemetry.Settings
