import DriverTelemetry.Decimal.Digits
import DriverTelemetry.Double.Reading
import DriverTelemetry.Double.Shortest

/-!
# Directives of a log filter

A directive gives a level to the records that it is about: those of a target, those inside a span of
some name, or those with a field of some name and value. The more it says about them the more
specific it is.
-/
namespace DriverTelemetry

inductive FilterLevel where
  | off | error | warn | info | debug | trace
  deriving DecidableEq

namespace FilterLevel

def all : List FilterLevel := [.off, .error, .warn, .info, .debug, .trace]

def name : FilterLevel → String
  | .off => "off"
  | .error => "error"
  | .warn => "warn"
  | .info => "info"
  | .debug => "debug"
  | .trace => "trace"

def number? : List Char → Option Nat
  | '+' :: ds => Decimal.ofDigits? ds
  | ds => Decimal.ofDigits? ds

/-- A level is given by its number, from 0 for none to 5 for all, or named in any case. -/
def ofText? (cs : List Char) : Option FilterLevel :=
  match (number? cs).bind fun n => all[n]? with
  | some level => some level
  | none => all.find? fun l => l.name.toList = cs.map Char.toLower

end FilterLevel

/-- What the value of a field is compared with. -/
inductive FieldValue where
  | truth (b : Bool)
  | float (x : Double)
  | natural (n : Nat)
  | integer (i : Int)
  | pattern (s : String)

namespace FieldValue

/-- The first that fits: a truth value, a natural number or an integer of 64 bits, a number, a
pattern. -/
def ofText (cs : List Char) : FieldValue :=
  if cs = "true".toList then .truth true
  else if cs = "false".toList then .truth false
  else
    match (FilterLevel.number? cs).filter fun n => n < Nat.pow 2 64, Decimal.int64? cs with
    | some n, _ => .natural n
    | none, some i => .integer i.toInt
    | none, none =>
      match Double.ofText? cs with
      | some x => .float x
      | none => .pattern (String.ofList cs)

def display : FieldValue → String
  | .truth b => if b then "true" else "false"
  | .float x => String.ofList x.render
  | .natural n => String.ofList (Decimal.natural n)
  | .integer i => String.ofList (Decimal.integer i)
  | .pattern s => s

def sort : FieldValue → Nat
  | .truth _ => 0
  | .float x => if x.isNaN then 2 else 1
  | .natural _ => 3
  | .integer _ => 4
  | .pattern _ => 5

/-- Which of two values comes first: by their sorts, then by what they are. -/
def order : FieldValue → FieldValue → Ordering
  | .truth a, .truth b => compare a.toNat b.toNat
  | .float x, .float y =>
    (compare (FieldValue.sort (.float x)) (FieldValue.sort (.float y))).then
      (if x.isNaN then .eq else compare x.rank y.rank)
  | .natural m, .natural n => compare m n
  | .integer i, .integer j => compare i j
  | .pattern s, .pattern t => compare s t
  | v, w => compare v.sort w.sort

end FieldValue

structure FieldFilter where
  name : String
  value : Option FieldValue

namespace FieldFilter

/-- A name, or a name and a value; a second equals sign ends the value. -/
def ofText (cs : List Char) : FieldFilter :=
  match cs.splitOn '=' with
  | name :: value :: _ => ⟨String.ofList name, some (FieldValue.ofText value)⟩
  | _ => ⟨String.ofList cs, none⟩

def display (f : FieldFilter) : String :=
  match f.value with
  | some v => f.name ++ "=" ++ v.display
  | none => f.name

def order (f g : FieldFilter) : Ordering :=
  match f.value, g.value with
  | some v, some w => (compare f.name g.name).then (v.order w)
  | some _, none => .gt
  | none, some _ => .lt
  | none, none => compare f.name g.name

end FieldFilter

structure Directive where
  target : Option String
  span : Option String
  field : Option FieldFilter
  level : FilterLevel

namespace Directive

/-- The directive about all records, of which everything passes. -/
def unlimited : Directive := ⟨none, none, none, .trace⟩

/-- A directive about spans or fields has to be looked at again with every record. -/
def isDynamic (d : Directive) : Bool := d.span.isSome || d.field.isSome

/-- A directive that says nothing of spans and of the values of fields can be decided ahead. -/
def isStatic (d : Directive) : Bool := d.span.isNone && (d.field.bind FieldFilter.value).isNone

def displayScope (d : Directive) : String :=
  if d.isDynamic then
    let field := match d.field with
      | some f => "\x7b" ++ f.display ++ "\x7d"
      | none => ""
    "[" ++ d.span.getD "" ++ field ++ "]"
  else ""

def display (d : Directive) : String :=
  let about := d.target.getD "" ++ d.displayScope
  if d.target.isSome || d.isDynamic then about ++ "=" ++ d.level.name else d.level.name

/-- What may be missing comes before what is there. -/
def orderOption {α : Type} (order : α → α → Ordering) : Option α → Option α → Ordering
  | none, none => .eq
  | none, some _ => .lt
  | some _, none => .gt
  | some a, some b => order a b

/-- How specific two directives are: by the lengths of their targets, by whether they name a span
and a field, and for the rest by the alphabet. Directives of one rank are about the same records. -/
def order (d e : Directive) : Ordering :=
  (orderOption compare (d.target.map String.utf8ByteSize) (e.target.map String.utf8ByteSize)).then
  ((compare d.span.isSome.toNat e.span.isSome.toNat).then
  ((compare d.field.isSome.toNat e.field.isSome.toNat).then
  ((orderOption compare d.target e.target).then
  ((orderOption compare d.span e.span).then (orderOption FieldFilter.order d.field e.field)))))

/-- Puts a directive before the less specific ones, or in the place of one about the same
records. -/
def insert (d : Directive) : List Directive → List Directive
  | [] => [d]
  | e :: es =>
    match d.order e with
    | .eq => d :: es
    | .gt => d :: e :: es
    | .lt => e :: insert d es

def ranked (ds : List Directive) : List Directive :=
  ds.foldl (fun found d => insert d found) []

end Directive
end DriverTelemetry
