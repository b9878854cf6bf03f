import DriverTelemetry.Driver.BaseCall
import DriverTelemetry.Event
import DriverTelemetry.Span

/-!
# Telemetry

All that observing calls leaves behind: the table of spans, and one stream of effects in the order
in which they happened, so that what a hook wrote can be placed before or after a base call or the
end of a span.
-/
namespace DriverTelemetry

inductive Phase where
  | before | after
  deriving DecidableEq

/-- What a recording hook saw. -/
structure Note where
  hook : String
  phase : Phase
  ctx : Context
  event : Event
  deriving DecidableEq

/-- The number of a base driver, in order of creation. -/
abbrev BaseId := Nat

inductive Effect where
  | called (base : BaseId) (call : BaseCall)
  | noted (note : Note)
  | logged (record : LogRecord)
  | started (span : SpanId)
  | finished (span : SpanId)
  deriving DecidableEq

namespace Effect

def note? : Effect → Option Note
  | .noted n => some n
  | _ => none

def call? : Effect → Option (BaseId × BaseCall)
  | .called id call => some (id, call)
  | _ => none

def end? : Effect → Option SpanId
  | .finished id => some id
  | _ => none

def notes (es : List Effect) : List Note := es.filterMap note?

def calls (es : List Effect) : List (BaseId × BaseCall) := es.filterMap call?

/-- The base calls up to the contexts that they were handed. -/
def plainCalls (es : List Effect) : List (BaseId × BaseCall) :=
  (calls es).map fun call => (call.1, call.2.withoutContext)

@[simp] theorem notes_nil : notes [] = [] := rfl

@[simp] theorem calls_nil : calls [] = [] := rfl

@[simp] theorem notes_append (es fs : List Effect) : notes (es ++ fs) = notes es ++ notes fs :=
  List.filterMap_append

@[simp] theorem calls_append (es fs : List Effect) : calls (es ++ fs) = calls es ++ calls fs :=
  List.filterMap_append

@[simp] theorem plainCalls_append (es fs : List Effect) :
    plainCalls (es ++ fs) = plainCalls es ++ plainCalls fs := by
  simp [plainCalls]

theorem plainCalls_of_calls {es : List Effect} (h : calls es = []) : plainCalls es = [] := by
  simp [plainCalls, h]

end Effect

structure Telemetry where
  /-- The monotonic clock; each reading is later than the one before. -/
  now : Nat
  /-- The last number that a recording hook gave out. -/
  lastSeq : Nat
  spans : List Span
  /-- The spans of all contexts that are kept, by a statement or transaction that carries one or by
  the program around the calls; a span stands here once for each of them. -/
  holds : List SpanId
  effects : List Effect
  deriving DecidableEq

namespace Telemetry

def empty : Telemetry := ⟨0, 0, [], [], []⟩

def emit (e : Effect) (t : Telemetry) : Telemetry := { t with effects := t.effects ++ [e] }

def log (records : List LogRecord) (t : Telemetry) : Telemetry :=
  { t with effects := t.effects ++ records.map .logged }

def tick (t : Telemetry) : Nat × Telemetry := (t.now + 1, { t with now := t.now + 1 })

def nextSeq (t : Telemetry) : Nat × Telemetry :=
  (t.lastSeq + 1, { t with lastSeq := t.lastSeq + 1 })

def startSpan (s : Span) (t : Telemetry) : SpanId × Telemetry :=
  (t.spans.length, { t with spans := t.spans ++ [s] }.emit (.started t.spans.length))

def changeSpan (id : SpanId) (change : Span → Span) (t : Telemetry) : Telemetry :=
  { t with spans := t.spans.modify id change }

def isOpen (t : Telemetry) (id : SpanId) : Bool :=
  match t.spans[id]? with
  | some s => !s.ended
  | none => false

/-- Ending an ended span does nothing. -/
def finishSpan (id : SpanId) (t : Telemetry) : Telemetry :=
  if t.isOpen id then (t.changeSpan id Span.finish).emit (.finished id) else t

def hold (ctxs : List Context) (t : Telemetry) : Telemetry :=
  { t with holds := ctxs.filterMap Context.span ++ t.holds }

def isCallers (t : Telemetry) (id : SpanId) : Bool :=
  match t.spans[id]? with
  | some s => s.origin = .caller
  | none => false

def unhold (ctx : Context) (t : Telemetry) : Telemetry :=
  match ctx.span with
  | some id => { t with holds := t.holds.erase id }
  | none => t

/-- Gives a context up. A span ends when the last context that it is active in is given up; those of
the tracing hooks have ended with their calls, so it is one of the program around that may end. -/
def letGo (ctx : Context) (t : Telemetry) : Telemetry :=
  let t := t.unhold ctx
  match ctx.span with
  | some id => if t.isCallers id && id ∉ t.holds then t.finishSpan id else t
  | none => t

/-- The first contexts are kept from here on, and then the second given up. -/
def exchange (kept givenUp : List Context) (t : Telemetry) : Telemetry :=
  givenUp.foldl (fun t ctx => t.letGo ctx) (t.hold kept)

/-- A context with the given number and, if asked for, a new span of the caller, who keeps it. -/
def callerContext (seq : Option Nat) (span : Bool) (t : Telemetry) : Context × Telemetry :=
  if span then
    let (id, t) := t.startSpan (Span.fresh .caller .internal "caller" none [])
    (⟨seq, some id⟩, t.hold [⟨seq, some id⟩])
  else (⟨seq, none⟩, t)

/-- The spans that have ended, in the order of their ends. -/
def finished (t : Telemetry) : List SpanId := t.effects.filterMap Effect.end?

theorem modify_eq_self {α : Type} {l : List α} {i : Nat} {f : α → α}
    (fixed : ∀ a, l[i]? = some a → f a = a) : l.modify i f = l := by
  refine List.ext_getElem? fun j => ?_
  rw [List.getElem?_modify]
  split
  · next same =>
    subst same
    cases found : l[i]? with
    | none => rfl
    | some a => exact congrArg some (fixed a found)
  · exact id_map _

/-! What the steps of a hook do to the table of spans, to the list of their ends and to the contexts
that are kept. -/

section

variable (t : Telemetry)

@[simp] theorem spans_emit (e : Effect) : (t.emit e).spans = t.spans := rfl

theorem filterMap_emit {β : Type} (read : Effect → Option β) (e : Effect) :
    (t.emit e).effects.filterMap read = t.effects.filterMap read ++ (read e).toList := by
  cases h : read e <;> simp [emit, h]

@[simp] theorem finished_emit (e : Effect) :
    (t.emit e).finished = t.finished ++ e.end?.toList :=
  t.filterMap_emit Effect.end? e

@[simp] theorem holds_emit (e : Effect) : (t.emit e).holds = t.holds := rfl

@[simp] theorem spans_tick : t.tick.2.spans = t.spans := rfl

@[simp] theorem finished_tick : t.tick.2.finished = t.finished := rfl

@[simp] theorem holds_tick : t.tick.2.holds = t.holds := rfl

@[simp] theorem spans_nextSeq : t.nextSeq.2.spans = t.spans := rfl

@[simp] theorem finished_nextSeq : t.nextSeq.2.finished = t.finished := rfl

@[simp] theorem holds_nextSeq : t.nextSeq.2.holds = t.holds := rfl

@[simp] theorem fst_startSpan (s : Span) : (t.startSpan s).1 = t.spans.length := rfl

@[simp] theorem spans_startSpan (s : Span) : (t.startSpan s).2.spans = t.spans ++ [s] := rfl

@[simp] theorem finished_startSpan (s : Span) : (t.startSpan s).2.finished = t.finished := by
  simp [finished, startSpan, emit, Effect.end?]

@[simp] theorem holds_startSpan (s : Span) : (t.startSpan s).2.holds = t.holds := rfl

@[simp] theorem spans_changeSpan (id : SpanId) (change : Span → Span) :
    (t.changeSpan id change).spans = t.spans.modify id change := rfl

@[simp] theorem finished_changeSpan (id : SpanId) (change : Span → Span) :
    (t.changeSpan id change).finished = t.finished := rfl

@[simp] theorem holds_changeSpan (id : SpanId) (change : Span → Span) :
    (t.changeSpan id change).holds = t.holds := rfl

theorem isOpen_iff {id : SpanId} :
    t.isOpen id = true ↔ ∃ s, t.spans[id]? = some s ∧ s.ended = false := by
  unfold isOpen
  cases t.spans[id]? <;> simp

@[simp] theorem spans_finishSpan (id : SpanId) :
    (t.finishSpan id).spans = t.spans.modify id Span.finish := by
  unfold finishSpan
  split
  · rfl
  · next closed =>
    rw [isOpen_iff] at closed
    refine (modify_eq_self fun s found => ?_).symm
    have ended : s.ended = true := by simpa [found] using closed
    exact Span.whileOpen_of_ended ended _

@[simp] theorem finished_finishSpan (id : SpanId) :
    (t.finishSpan id).finished = t.finished ++ if t.isOpen id then [id] else [] := by
  unfold finishSpan
  split <;> simp [Effect.end?]

@[simp] theorem holds_finishSpan (id : SpanId) : (t.finishSpan id).holds = t.holds := by
  unfold finishSpan
  split <;> rfl

theorem unhold_eq (ctx : Context) : ∃ holds, t.unhold ctx = { t with holds } := by
  unfold unhold
  split
  · exact ⟨_, rfl⟩
  · exact ⟨t.holds, rfl⟩

theorem count_unhold (ctx : Context) (id : SpanId) : (t.unhold ctx).holds.count id =
    t.holds.count id - if ctx.span = some id then 1 else 0 := by
  unfold unhold
  split
  · next other active =>
    rw [active, List.count_erase]
    by_cases same : other = id <;> simp [same]
  · next inactive => simp [inactive]

/-- A span ends as its context is given up only if it is one of the program around and nothing else
keeps a context in which it is active. -/
theorem letGo_cases (ctx : Context) :
    t.letGo ctx = t.unhold ctx ∨ ∃ id, ctx.span = some id ∧ t.isCallers id = true ∧
      t.holds.count id ≤ 1 ∧ t.letGo ctx = (t.unhold ctx).finishSpan id := by
  obtain ⟨holds, given⟩ := t.unhold_eq ctx
  unfold letGo
  split
  · next id active =>
    dsimp only
    split
    · next last =>
      rw [Bool.and_eq_true, decide_eq_true_eq] at last
      have none_left := List.count_eq_zero.mpr last.2
      rw [count_unhold, if_pos active] at none_left
      have callers : t.isCallers id = true := by
        rw [given] at last
        exact last.1
      exact .inr ⟨id, active, callers, by omega, rfl⟩
    · exact .inl rfl
  · exact .inl rfl

theorem count_letGo (ctx : Context) (id : SpanId) : (t.letGo ctx).holds.count id =
    t.holds.count id - if ctx.span = some id then 1 else 0 := by
  rw [← count_unhold]
  rcases t.letGo_cases ctx with same | ⟨other, -, -, -, ended⟩
  · rw [same]
  · rw [ended, holds_finishSpan]

end

end Telemetry
end DriverTelemetry
