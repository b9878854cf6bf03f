import DriverTelemetry.LogFilter.Directive
import DriverTelemetry.Text.Alphanumeric

/-!
# Reading a directive

A directive is a level, or a target with a span and fields in brackets, of which each may be
missing, and a level after an equals sign. It is read character by character without the white space
around it. The places of its parts are counted there, and are then taken for places in the whole
text, so that leading white space moves every part. Places are counted in the bytes of the encoding.
-/
namespace DriverTelemetry

namespace Text

def dropBytes? : Nat → List Char → Option (List Char)
  | 0, cs => some cs
  | _, [] => none
  | n, c :: cs => if c.utf8Size ≤ n then dropBytes? (n - c.utf8Size) cs else none

def takeBytes? : Nat → List Char → Option (List Char)
  | 0, _ => some []
  | _, [] => none
  | n, c :: cs => if c.utf8Size ≤ n then (takeBytes? (n - c.utf8Size) cs).map (c :: ·) else none

/-- The characters from one place up to another. A place inside a character, or behind the end, has
no slice. -/
def slice? (cs : List Char) (first last : Nat) : Option (List Char) :=
  (dropBytes? first cs).bind (takeBytes? (last - first))

end Text

namespace Directive

/-- The part that is being read, with the place where it began. -/
inductive Part where
  | start
  | levelOrTarget (first : Nat)
  | span (first : Nat)
  | field (first : Nat)
  | fieldEnd
  | scopeEnd
  | level (first : Nat)

/-- Letters, digits and three marks may start a directive. -/
def canStart (c : Char) : Bool := Text.isAlphanumeric c || c = '-' || c = ':' || c = '_'

/-- The level after an equals sign; without one everything passes. -/
def level? (cs : List Char) : Option FilterLevel :=
  if cs.isEmpty then some .trace else FilterLevel.ofText? cs

/-- Goes on by the character at a place of the given text. -/
def step? (text : List Char) (d : Directive) (part : Part) (place : Nat) (c : Char) :
    Option (Directive × Part) :=
  match part with
  | .start =>
    if c = '[' then some (d, .span (place + 1))
    else if canStart c then some (d, .levelOrTarget place)
    else none
  | .levelOrTarget first =>
    if c = '=' then do
      let target ← Text.slice? text first place
      some ({ d with target := some (String.ofList target) }, .level (place + 1))
    else if c = '[' then do
      let target ← Text.slice? text first place
      some ({ d with target := some (String.ofList target) }, .span (place + 1))
    else some (d, part)
  | .span first =>
    if c = ']' then do
      let span ← Text.slice? text first place
      some ({ d with span := some (String.ofList span) }, .scopeEnd)
    else if c = '\x7b' then do
      let span ← Text.slice? text first place
      let named := if span.isEmpty then none else some (String.ofList span)
      some ({ d with span := named }, .field (place + 1))
    else some (d, part)
  | .field first =>
    if c = '\x7d' then do
      let field ← Text.slice? text first place
      if field.isEmpty then none
      else some ({ d with field := some (FieldFilter.ofText field) }, .fieldEnd)
    else some (d, part)
  | .fieldEnd => if c = ']' then some (d, .scopeEnd) else none
  | .scopeEnd => if c = '=' then some (d, .level (place + 1)) else none
  | .level _ => some (d, part)

def finish? (text : List Char) (d : Directive) : Part → Option Directive
  | .levelOrTarget first => do
    let word ← Text.dropBytes? first text
    match FilterLevel.ofText? word with
    | some level => some { d with level := level }
    | none => some { d with target := some (String.ofList word) }
  | .level first => do
    let word ← Text.dropBytes? first text
    let level ← level? word
    some { d with level := level }
  | .scopeEnd => some d
  | _ => none

def read? (text : List Char) (d : Directive) (part : Part) (place : Nat) :
    List Char → Option Directive
  | [] => finish? text d part
  | c :: cs => do
    let (d, part) ← step? text d part place c
    read? text d part (place + c.utf8Size) cs

def ofText? (text : List Char) : Option Directive :=
  read? text unlimited .start 0 (Text.trimmed text)

end Directive
end DriverTelemetry
