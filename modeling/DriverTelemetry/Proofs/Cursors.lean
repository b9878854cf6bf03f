import DriverTelemetry.Rows
import Mathlib.Data.List.Induction

/-!
# Cursors

Whatever is asked of a cursor, and in whatever order, it hands its rows out one after the other from
the first until it is closed, and after the last of them tells that there are no more. From its
first close on it refuses to hand out any, while closing it again goes on to succeed. Its columns
are told in every state.
-/
namespace DriverTelemetry.Rows

inductive Request where
  | next | close | columns
  deriving DecidableEq

inductive Reply where
  /-- A row, or nothing after the last one. -/
  | row (values : Option (List Value))
  | closed
  | columns (names : List String)
  deriving DecidableEq

def Reply.row? : Result Reply → Option (List Value)
  | .ok (.row values) => values
  | _ => none

def serve (request : Request) (r : Rows) : Result Reply × Rows :=
  match request with
  | .next =>
    let (row, r) := r.next
    (row.map .row, r)
  | .close => (.ok .closed, r.close)
  | .columns => (.ok (.columns r.columns), r)

/-- Requests one after the other, each of the cursor that the one before it left. -/
def serveAll : List Request → Rows → List (Result Reply) × Rows
  | [], r => ([], r)
  | request :: requests, r =>
    let (reply, r) := serve request r
    let (replies, r) := serveAll requests r
    (reply :: replies, r)

theorem serveAll_append (requests later : List Request) (r : Rows) :
    serveAll (requests ++ later) r =
      ((serveAll requests r).1 ++ (serveAll later (serveAll requests r).2).1,
        (serveAll later (serveAll requests r).2).2) := by
  induction requests generalizing r with
  | nil => rfl
  | cons request requests ih =>
    simp only [List.cons_append, serveAll, ih]

/-- A cursor over these rows once it has been asked all this. -/
def afterAll (columns : List String) (rows : List (List Value)) (requests : List Request) : Rows :=
  if .close ∈ requests then ⟨columns, [], true⟩
  else ⟨columns, rows.drop (requests.count .next), false⟩

/-- The reply to a request that comes after all these. -/
def replyAfter (columns : List String) (rows : List (List Value)) (requests : List Request) :
    Request → Result Reply
  | .next =>
    if .close ∈ requests then .error (.message "sql: Rows are closed")
    else .ok (.row rows[requests.count .next]?)
  | .close => .ok .closed
  | .columns => .ok (.columns columns)

theorem next_of_open {r : Rows} (h : r.closed = false) :
    r.next = (.ok r.rest.head?, { r with rest := r.rest.tail }) := by
  obtain ⟨columns, rest, closed⟩ := r
  subst h
  cases rest with
  | nil => exact next_of_empty rfl rfl
  | cons row rest => exact next_of_cons rfl rfl

theorem serve_afterAll (columns : List String) (rows : List (List Value))
    (requests : List Request) (request : Request) :
    serve request (afterAll columns rows requests) =
      (replyAfter columns rows requests request,
        afterAll columns rows (requests ++ [request])) := by
  by_cases shut : .close ∈ requests
  · cases request with
    | next => simp [serve, afterAll, replyAfter, shut, next_of_closed, Except.map]
    | close | columns => simp [serve, afterAll, replyAfter, shut, close]
  · cases request with
    | next =>
      simp [serve, afterAll, replyAfter, shut, next_of_open, Except.map, List.count_append]
    | close | columns => simp [serve, afterAll, replyAfter, shut, close, List.count_append]

theorem serveAll_eq (columns : List String) (rows : List (List Value))
    (requests : List Request) :
    (serveAll requests (ofList columns rows)).2 = afterAll columns rows requests := by
  induction requests using List.reverseRecOn with
  | nil => rfl
  | append_singleton requests request ih =>
    rw [serveAll_append, ih]
    exact congrArg Prod.snd (serve_afterAll columns rows requests request)

/-- How often a row is asked for before the first close. -/
def reads : List Request → Nat
  | [] => 0
  | .next :: requests => reads requests + 1
  | .close :: _ => 0
  | .columns :: requests => reads requests

def handedOut (replies : List (Result Reply)) : List (List Value) := replies.filterMap Reply.row?

theorem handedOut_serveAll_of_closed {r : Rows} (shut : r.closed = true)
    (requests : List Request) : handedOut (serveAll requests r).1 = [] := by
  induction requests generalizing r with
  | nil => rfl
  | cons request requests ih =>
    cases request with
    | next =>
      simp only [serveAll, serve, next_of_closed shut]
      exact ih shut
    | close => exact ih (closed_close r)
    | columns => exact ih shut

theorem handedOut_serveAll {r : Rows} (opened : r.closed = false) (requests : List Request) :
    handedOut (serveAll requests r).1 = r.rest.take (reads requests) := by
  induction requests generalizing r with
  | nil => rfl
  | cons request requests ih =>
    cases request with
    | next =>
      have later := ih (r := { r with rest := r.rest.tail }) opened
      simp only [serveAll, serve, next_of_open opened]
      cases rows : r.rest with
      | nil =>
        rw [rows] at later
        exact later.trans (by simp)
      | cons row rest =>
        rw [rows] at later
        exact congrArg (row :: ·) later
    | close => exact handedOut_serveAll_of_closed (closed_close r) requests
    | columns => exact ih opened

/-- Whatever a cursor has been asked, the next row that it hands out is the one that comes after as
many as were asked for, or none after the last, as long as it was not closed; after a close it
refuses to hand out any, and closing it succeeds in every state. So the rows that it has handed out
are the first ones of those it was made with, as many as were asked for before the first close, and
its columns are the ones it was made with. -/
theorem serveAll_ofList (columns : List String) (rows : List (List Value))
    (requests : List Request) :
    let replies := (serveAll requests (ofList columns rows)).1
    let r := (serveAll requests (ofList columns rows)).2
    (serve .next r).1 = (if .close ∈ requests then .error (.message "sql: Rows are closed")
      else .ok (.row rows[requests.count .next]?)) ∧
    (serve .close r).1 = .ok .closed ∧
    (serve .columns r).1 = .ok (.columns columns) ∧
    handedOut replies = rows.take (reads requests) := by
  intro replies r
  have left : r = afterAll columns rows requests := serveAll_eq columns rows requests
  simp only [left, serve_afterAll]
  exact ⟨rfl, rfl, rfl, handedOut_serveAll rfl requests⟩

end DriverTelemetry.Rows
