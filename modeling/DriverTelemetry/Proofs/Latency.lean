import DriverTelemetry.Event

/-!
# The time between the marks

An event is marked and filled in by entries that may come in any order, repeat or be left out. The
marks are readings of a clock that goes forward. How long the call took depends on the marks alone:
there is no answer before the first start, nor after a start that no stop follows, and else it is
the time from the last start to the last stop. What is filled in depends on the other entries alone,
each figure being the one that was entered last.
-/
namespace DriverTelemetry.Event

inductive Entry where
  | start (now : Nat)
  | stop (now : Nat)
  | error (err : DriverError)
  | lastInsertId (id : Int64)
  | rowsAffected (rows : Int64)

namespace Entry

def start? : Entry → Option Nat
  | .start now => some now
  | _ => none

def stop? : Entry → Option Nat
  | .stop now => some now
  | _ => none

def error? : Entry → Option DriverError
  | .error err => some err
  | _ => none

def lastInsertId? : Entry → Option Int64
  | .lastInsertId id => some id
  | _ => none

def rowsAffected? : Entry → Option Int64
  | .rowsAffected rows => some rows
  | _ => none

def time? : Entry → Option Nat
  | .start now | .stop now => some now
  | _ => none

def isMark (entry : Entry) : Bool := entry.time?.isSome

end Entry

def enter (e : Event) : Entry → Event
  | .start now => e.start now
  | .stop now => e.stop now
  | .error err => e.setError err
  | .lastInsertId id => e.setLastInsertId id
  | .rowsAffected rows => e.setRowsAffected rows

def enterAll (e : Event) (entries : List Entry) : Event := entries.foldl enter e

/-- What the last entry of a sort says. -/
def lastOf {α : Type} (sort : Entry → Option α) (entries : List Entry) : Option α :=
  (entries.filterMap sort).getLast?

theorem lastOf_cons {α : Type} (sort : Entry → Option α) (entry : Entry) (entries : List Entry) :
    lastOf sort (entry :: entries) = (lastOf sort entries).or (sort entry) := by
  cases said : sort entry with
  | none => simp [lastOf, said]
  | some a => simp [lastOf, said, List.getLast?_cons, Option.or_some]

/-- One entry sets one field, and what the entries after it leave unset stays as it was set. -/
theorem enterAll_eq (e : Event) (entries : List Entry) :
    e.enterAll entries = { e with
      started := (lastOf Entry.start? entries).or e.started
      stopped := (lastOf Entry.stop? entries).or e.stopped
      lastInsertId := (lastOf Entry.lastInsertId? entries).or e.lastInsertId
      rowsAffected := (lastOf Entry.rowsAffected? entries).or e.rowsAffected
      error := (lastOf Entry.error? entries).or e.error } := by
  induction entries generalizing e with
  | nil => rfl
  | cons entry entries ih =>
    rw [enterAll, List.foldl_cons, ← enterAll, ih]
    simp only [lastOf_cons, Option.or_assoc]
    cases entry <;> rfl

def marks (entries : List Entry) : List Entry := entries.filter Entry.isMark

/-- Only marks say something of this sort, and what they say is when they were made. -/
def OfMarks (sort : Entry → Option Nat) : Prop :=
  ∀ entry time, sort entry = some time → entry.time? = some time

theorem ofMarks_time? : OfMarks Entry.time? := fun _ _ said => said

theorem ofMarks_start? : OfMarks Entry.start? := by
  intro entry time said
  cases entry with
  | start now => exact said
  | _ => cases said

theorem ofMarks_stop? : OfMarks Entry.stop? := by
  intro entry time said
  cases entry with
  | stop now => exact said
  | _ => cases said

section

variable {sort : Entry → Option Nat} (ofMarks : OfMarks sort)

include ofMarks

theorem eq_none_of_unmarked {entry : Entry} (unmarked : entry.isMark = false) :
    sort entry = none := by
  cases said : sort entry with
  | none => rfl
  | some time =>
    rw [Entry.isMark, ofMarks entry time said] at unmarked
    cases unmarked

theorem filterMap_marks (entries : List Entry) :
    (marks entries).filterMap sort = entries.filterMap sort := by
  induction entries with
  | nil => rfl
  | cons entry entries ih =>
    unfold marks at ih ⊢
    cases mark : entry.isMark with
    | true => rw [List.filter_cons_of_pos mark, List.filterMap_cons, List.filterMap_cons, ih]
    | false =>
      rw [List.filter_cons_of_neg (by simp [mark]), ih,
        List.filterMap_cons_none (eq_none_of_unmarked ofMarks mark)]

theorem lastOf_of_last {entries : List Entry} {mark : Entry} {time : Nat}
    (last : (marks entries).getLast? = some mark) (said : sort mark = some time) :
    lastOf sort entries = some time := by
  obtain ⟨earlier, split⟩ := List.getLast?_eq_some_iff.mp last
  rw [lastOf, ← filterMap_marks ofMarks, split]
  simp [said]

theorem lt_of_last {entries : List Entry} {mark : Entry} {time now : Nat}
    (ordered : (entries.filterMap Entry.time?).Pairwise (· < ·))
    (last : (marks entries).getLast? = some mark) (timed : mark.time? = some now)
    (other : sort mark = none) (said : lastOf sort entries = some time) : time < now := by
  obtain ⟨earlier, split⟩ := List.getLast?_eq_some_iff.mp last
  have before : lastOf sort earlier = some time := by
    rw [lastOf, ← filterMap_marks ofMarks, split] at said
    simpa [lastOf, other] using said
  rw [← filterMap_marks ofMarks_time?, split, List.filterMap_append,
    List.pairwise_append] at ordered
  obtain ⟨-, -, less⟩ := ordered
  obtain ⟨entry, member, found⟩ := List.mem_filterMap.mp (List.mem_of_getLast? before)
  refine less time (List.mem_filterMap.mpr ⟨entry, member, ofMarks entry time found⟩) now ?_
  exact List.mem_filterMap.mpr ⟨mark, List.mem_singleton_self mark, timed⟩

end

theorem lastOf_eq_none_iff {α : Type} {sort : Entry → Option α} {entries : List Entry} :
    lastOf sort entries = none ↔ ∀ entry ∈ entries, sort entry = none := by
  rw [lastOf, List.getLast?_eq_none_iff, List.filterMap_eq_nil_iff]

/-- Nothing is known yet of how long the call took. -/
def Unmarked (e : Event) : Prop := e.started = none ∧ e.stopped = none

section

variable {e : Event} (unmarked : e.Unmarked) {entries : List Entry}

include unmarked

theorem started_enterAll : (e.enterAll entries).started = lastOf Entry.start? entries := by
  rw [enterAll_eq, unmarked.1, Option.or_none]

theorem stopped_enterAll : (e.enterAll entries).stopped = lastOf Entry.stop? entries := by
  rw [enterAll_eq, unmarked.2, Option.or_none]

theorem latency_of_unstarted (never : lastOf Entry.start? entries = none) :
    (e.enterAll entries).latency = .error .notStarted := by
  rw [latency, started_enterAll unmarked, never]

variable (ordered : (entries.filterMap Entry.time?).Pairwise (· < ·))

include ordered

theorem latency_of_started {now : Nat} (last : (marks entries).getLast? = some (.start now)) :
    (e.enterAll entries).latency = .error .notStopped := by
  have started := (started_enterAll unmarked).trans (lastOf_of_last ofMarks_start? last rfl)
  rw [latency, started, stopped_enterAll unmarked]
  cases stopped : lastOf Entry.stop? entries with
  | none => rfl
  | some stop =>
    have early : stop < now := lt_of_last ofMarks_stop? ordered last rfl rfl stopped
    exact if_neg (Nat.not_le_of_lt early)

theorem latency_of_stopped {start stop : Nat}
    (last : (marks entries).getLast? = some (.stop stop))
    (started : lastOf Entry.start? entries = some start) :
    start < stop ∧ (e.enterAll entries).latency = .ok (stop - start) := by
  have late : start < stop := lt_of_last ofMarks_start? ordered last rfl rfl started
  refine ⟨late, ?_⟩
  rw [latency, started_enterAll unmarked, started, stopped_enterAll unmarked,
    lastOf_of_last ofMarks_stop? last rfl]
  exact if_pos (Nat.le_of_lt late)

/-- The three courses that a sequence of marks can take. -/
theorem latency_cases :
    (lastOf Entry.start? entries = none ∧ (e.enterAll entries).latency = .error .notStarted) ∨
    (∃ now, (marks entries).getLast? = some (.start now) ∧
      (e.enterAll entries).latency = .error .notStopped) ∨
    ∃ start stop, lastOf Entry.start? entries = some start ∧
      (marks entries).getLast? = some (.stop stop) ∧ start < stop ∧
      (e.enterAll entries).latency = .ok (stop - start) := by
  cases started : lastOf Entry.start? entries with
  | none => exact .inl ⟨rfl, latency_of_unstarted unmarked started⟩
  | some start =>
    cases last : (marks entries).getLast? with
    | none =>
      rw [lastOf, ← filterMap_marks ofMarks_start?, List.getLast?_eq_none_iff.mp last] at started
      cases started
    | some mark =>
      have made : mark.isMark = true := (List.mem_filter.mp (List.mem_of_getLast? last)).2
      cases mark with
      | start now => exact .inr (.inl ⟨now, rfl, latency_of_started unmarked ordered last⟩)
      | stop stop =>
        obtain ⟨late, time⟩ := latency_of_stopped unmarked ordered last started
        exact .inr (.inr ⟨start, stop, rfl, rfl, late, time⟩)
      | error err => cases made
      | lastInsertId id => cases made
      | rowsAffected rows => cases made

theorem latency_eq_notStarted_iff :
    (e.enterAll entries).latency = .error .notStarted ↔ ∀ now, .start now ∉ entries := by
  have never : lastOf Entry.start? entries = none ↔ ∀ now, .start now ∉ entries := by
    rw [lastOf_eq_none_iff]
    constructor
    · intro unstarted now member
      cases unstarted _ member
    · intro unstarted entry member
      cases entry with
      | start now => exact absurd member (unstarted now)
      | _ => rfl
  rw [← never]
  rcases latency_cases unmarked ordered with ⟨unstarted, answer⟩ | ⟨now, last, answer⟩ |
    ⟨start, stop, started, -, -, answer⟩
  · simp [answer, unstarted]
  · simp [answer, lastOf_of_last ofMarks_start? last rfl]
  · simp [answer, started]

theorem latency_eq_notStopped_iff :
    (e.enterAll entries).latency = .error .notStopped ↔
      ∃ now, (marks entries).getLast? = some (.start now) := by
  rcases latency_cases unmarked ordered with ⟨unstarted, answer⟩ | ⟨now, last, answer⟩ |
    ⟨start, stop, -, last, -, answer⟩
  · have unlike : ∀ now, (marks entries).getLast? ≠ some (.start now) := by
      intro now last
      rw [lastOf_of_last ofMarks_start? last rfl] at unstarted
      cases unstarted
    simp [answer, unlike]
  · simp [answer, last]
  · simp [answer, last]

theorem latency_eq_ok_iff {time : Nat} :
    (e.enterAll entries).latency = .ok time ↔
      ∃ start stop, lastOf Entry.start? entries = some start ∧
        (marks entries).getLast? = some (.stop stop) ∧ start < stop ∧ time = stop - start := by
  constructor
  · intro took
    rcases latency_cases unmarked ordered with ⟨-, answer⟩ | ⟨-, -, answer⟩ |
      ⟨start, stop, started, last, late, answer⟩
    · cases took.symm.trans answer
    · cases took.symm.trans answer
    · cases took.symm.trans answer
      exact ⟨start, stop, started, last, late, rfl⟩
  · rintro ⟨start, stop, started, last, -, rfl⟩
    exact (latency_of_stopped unmarked ordered last started).2

end

theorem latency_enterAll_marks (e : Event) (entries : List Entry) :
    (e.enterAll (marks entries)).latency = (e.enterAll entries).latency := by
  rw [latency, latency, enterAll_eq, enterAll_eq]
  simp only [lastOf, filterMap_marks ofMarks_start?, filterMap_marks ofMarks_stop?]

/-- Whatever is entered on a fresh event, and in whichever order, the marks alone tell how long the
call took, if they follow one another in time: there is no answer without a start and none where
the last mark is a start, and else it is the time from the last start to the last stop. The other
entries alone tell the figures and the error, each as it was entered last, and nothing that is
entered changes what the event says of the call itself. -/
theorem latency_follows_marks (system : DatabaseSystem) (op : Operation) (query : String)
    (args : Arguments) (entries : List Entry)
    (ordered : (entries.filterMap Entry.time?).Pairwise (· < ·)) :
    let first := ((fresh system op).withQuery query).withArgs args
    let e := first.enterAll entries
    (e.latency = .error .notStarted ↔ ∀ now, .start now ∉ entries) ∧
    (e.latency = .error .notStopped ↔ ∃ now, (marks entries).getLast? = some (.start now)) ∧
    (∀ time, e.latency = .ok time ↔ ∃ start stop, lastOf Entry.start? entries = some start ∧
      (marks entries).getLast? = some (.stop stop) ∧ start < stop ∧ time = stop - start) ∧
    e.latency = (first.enterAll (marks entries)).latency ∧
    e = { first with
      started := e.started
      stopped := e.stopped
      lastInsertId := lastOf Entry.lastInsertId? entries
      rowsAffected := lastOf Entry.rowsAffected? entries
      error := lastOf Entry.error? entries } := by
  intro first e
  have unmarked : first.Unmarked := ⟨rfl, rfl⟩
  refine ⟨latency_eq_notStarted_iff unmarked ordered, latency_eq_notStopped_iff unmarked ordered,
    fun _ => latency_eq_ok_iff unmarked ordered, (latency_enterAll_marks first entries).symm, ?_⟩
  simp only [e, enterAll_eq]
  simp [first, fresh, withQuery, withArgs]

/-- A stop, a start, a failure, a second start, two stops and two counts of rows. -/
def restarted : List Entry :=
  [.stop 1, .start 2, .error .skip, .start 5, .stop 9, .rowsAffected 3, .stop 12, .rowsAffected 4]

theorem latency_follows_marks_restarted :
    (restarted.filterMap Entry.time?).Pairwise (· < ·) ∧
      let e := (((fresh .sqlite .connExec).withQuery "DELETE").withArgs .none).enterAll restarted
      e.latency = .ok 7 ∧ e.rowsAffected = some 4 ∧ e.error = some .skip ∧ e.query = "DELETE" := by
  have ordered : (restarted.filterMap Entry.time?).Pairwise (· < ·) := by decide
  obtain ⟨-, -, took, -, filled⟩ :=
    latency_follows_marks .sqlite .connExec "DELETE" .none restarted ordered
  refine ⟨ordered, (took 7).mpr ⟨5, 12, rfl, rfl, by decide, rfl⟩, ?_⟩
  rw [filled]
  exact ⟨rfl, rfl, rfl⟩

end DriverTelemetry.Event
