import DriverTelemetry.Settings.Setting

/-!
# Paths to settings

The name of a top-level entry is read as a path into the tables: names with points between them, and
places in lists between square brackets. A name that is no path stands for itself. On the way along
a path whatever is in the way is replaced by the table or list that the path needs. Only the name at
the end of a path is taken in lower case.
-/
namespace DriverTelemetry.Settings

inductive Path where
  | name (s : String)
  | entry (p : Path) (s : String)
  | place (p : Path) (i : Int)
  deriving DecidableEq

namespace Path

def isNameChar (c : Char) : Bool := c.isAlphanum || c = ' ' || c = '_' || c = '-'

/-- A leading name of at least one character, and the rest. -/
def takeName? (cs : List Char) : Option (String × List Char) :=
  let name := cs.takeWhile isNameChar
  if name.isEmpty then none else some (String.ofList name, cs.dropWhile isNameChar)

def isSpace (c : Char) : Bool := c = ' ' || c = '\t' || c = '\n' || c = '\r'

def isNumberChar (c : Char) : Bool := c = '-' || c.isDigit

/-- A whole number up to the closing bracket, with space around it, and the rest. -/
def takePlace? (cs : List Char) : Option (Int × List Char) :=
  let start := cs.dropWhile isSpace
  match (start.dropWhile isNumberChar).dropWhile isSpace with
  | ']' :: rest => (Decimal.int64? (start.takeWhile isNumberChar)).map fun i => (i.toInt, rest)
  | _ => none

/-- The steps of a path after its first name; each takes at least one character. -/
def steps? : Nat → Path → List Char → Option Path
  | _, p, [] => some p
  | 0, _, _ => none
  | bound + 1, p, '.' :: cs =>
    match takeName? cs with
    | some (s, rest) => steps? bound (.entry p s) rest
    | none => none
  | bound + 1, p, '[' :: cs =>
    match takePlace? cs with
    | some (i, rest) => steps? bound (.place p i) rest
    | none => none
  | _, _, _ => none

def ofText (s : String) : Path :=
  let cs := s.toList
  ((takeName? cs).bind fun (first, rest) => steps? cs.length (.name first) rest).getD (.name s)

def asTable : Setting → Setting
  | .table source entries => .table source entries
  | _ => Setting.emptyTable

def null : Setting := .scalar none .null

def items : Setting → List Setting
  | .list _ items => items
  | _ => []

/-- Changes one place of a list, which is made long enough; a negative place counts from the end. -/
def changePlace (change : Setting → Setting) (i : Int) (s : Setting) : Setting :=
  let xs := items s
  let source := match s with
    | .list source _ => source
    | _ => none
  if 0 ≤ i then
    let n := i.toNat
    let long := xs ++ List.replicate (n + 1 - xs.length) null
    .list source (long.modify n change)
  else
    let back := i.natAbs
    let long := List.replicate (back - xs.length) null ++ xs
    .list source (long.modify (long.length - back) change)

def change : Path → (Setting → Setting) → Setting → Setting
  | .name s, f, root => (asTable root).set s (f ((root.get? s).getD null))
  | .entry p s, f, root =>
    p.change (fun parent => (asTable parent).set s (f ((parent.get? s).getD null))) root
  | .place p i, f, root => p.change (changePlace f i) root

def put (value : Setting) (root : Setting) : Path → Setting
  | .name s => Setting.put s root value
  | .entry p s => p.change (fun parent => Setting.put s (asTable parent) value) root
  | .place p i => p.change (changePlace (fun _ => value) i) root

end Path
end DriverTelemetry.Settings
