import DriverTelemetry.LogRecord

/-!
# Spans and contexts

A span is open from its start to its end and takes attributes, events and a status only while it is
open. The status can rise from unset over error to ok but never fall. A context travels with a call:
the span that is active around it and the number that the last recording hook gave it.
-/
namespace DriverTelemetry

/-- The place of a span in the table of all spans that were ever started. -/
abbrev SpanId := Nat

structure Context where
  seq : Option Nat
  span : Option SpanId
  deriving DecidableEq

namespace Context

def empty : Context := ⟨none, none⟩

def withSeq (ctx : Context) (n : Nat) : Context := { ctx with seq := some n }

def shows (id : SpanId) (ctx : Context) : Bool := ctx.span = some id

def withSpan (ctx : Context) (id : SpanId) : Context := { ctx with span := some id }

end Context

inductive SpanStatus where
  | unset
  | error (text : String)
  | ok
  deriving DecidableEq

/-- Whether the first status replaces the second. -/
def SpanStatus.outranks : SpanStatus → SpanStatus → Bool
  | .unset, _ => false
  | .error _, .unset => true
  | .error new, .error old => old < new
  | .error _, .ok => false
  | .ok, .ok => false
  | .ok, _ => true

/-- Who started a span: the program around the calls, or a tracing hook on the tracer of a scope. -/
inductive SpanOrigin where
  | caller
  | tracer (scope : String)
  deriving DecidableEq

/-- What a span stands for: a call on another system, or work of the program itself. -/
inductive SpanKind where
  | internal | client
  deriving DecidableEq

structure SpanEvent where
  name : String
  attributes : List (String × String)
  deriving DecidableEq

structure Span where
  origin : SpanOrigin
  kind : SpanKind
  name : String
  parent : Option SpanId
  attributes : List (String × Field)
  events : List SpanEvent
  status : SpanStatus
  ended : Bool
  deriving DecidableEq

namespace Span

def fresh (origin : SpanOrigin) (kind : SpanKind) (name : String) (parent : Option SpanId)
    (attributes : List (String × Field)) : Span :=
  { origin, kind, name, parent, attributes, events := [], status := .unset, ended := false }

/-- A change that an ended span no longer takes. -/
def whileOpen (change : Span → Span) (s : Span) : Span := if s.ended then s else change s

def setAttribute (name : String) (value : Field) : Span → Span :=
  whileOpen fun s => { s with attributes := s.attributes ++ [(name, value)] }

/-- An error is an event that carries its text. -/
def recordError (text : String) : Span → Span :=
  whileOpen fun s =>
    { s with events := s.events ++ [⟨"exception", [("exception.message", text)]⟩] }

def setStatus (status : SpanStatus) : Span → Span :=
  whileOpen fun s => if status.outranks s.status then { s with status } else s

def finish : Span → Span := whileOpen fun s => { s with ended := true }

section

variable {s : Span}

theorem whileOpen_of_ended (ended : s.ended = true) (change : Span → Span) :
    whileOpen change s = s := if_pos ended

variable (s)

@[simp] theorem ended_setAttribute (name : String) (value : Field) :
    (s.setAttribute name value).ended = s.ended := by
  unfold setAttribute whileOpen
  split <;> rfl

@[simp] theorem ended_recordError (text : String) : (s.recordError text).ended = s.ended := by
  unfold recordError whileOpen
  split <;> rfl

@[simp] theorem ended_setStatus (status : SpanStatus) : (s.setStatus status).ended = s.ended := by
  unfold setStatus whileOpen
  split
  · rfl
  · dsimp only
    split <;> rfl

@[simp] theorem ended_finish : s.finish.ended = true := by
  unfold finish whileOpen
  split
  · assumption
  · rfl

end

end Span
end DriverTelemetry
