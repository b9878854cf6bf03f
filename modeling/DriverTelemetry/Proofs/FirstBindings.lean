import DriverTelemetry.NameTable
import Mathlib.Data.List.Dedup

/-!
# First bindings

A table of names serves requests in any order: to bind a name, to bind it to what is yet to be made,
to tell what is bound. Whatever is asked of it, a name keeps the first binding that it was given.
What is to be bound is made only where the name is unbound at that moment, and is bound only where
making it succeeds, so the size of a table is the number of different names bound so far.
-/
namespace DriverTelemetry.NameTable

variable {ε σ α : Type}

/-- What can be asked of a table. Making something may change a state, and may fail. -/
inductive Request (ε σ α : Type) where
  | add (name : String) (a : α)
  | getOrInsert (name : String) (create : σ → Except ε α × σ)
  | has (name : String)
  | get (name : String)
  | size

inductive Reply (ε α : Type) where
  | added
  | obtained (r : Except ε α)
  | has (b : Bool)
  | found (a : Option α)
  | size (n : Nat)

def serve (request : Request ε σ α) (t : NameTable α) (s : σ) : Reply ε α × NameTable α × σ :=
  match request with
  | .add name a => (.added, t.insert name a, s)
  | .getOrInsert name create =>
    let (r, t, s) := t.getOrInsert name create s
    (.obtained r, t, s)
  | .has name => (.has (t.contains name), t, s)
  | .get name => (.found (t.get? name), t, s)
  | .size => (.size t.size, t, s)

def serveAll : List (Request ε σ α) → NameTable α → σ → List (Reply ε α) × NameTable α × σ
  | [], t, s => ([], t, s)
  | request :: requests, t, s =>
    let (reply, t, s) := serve request t s
    let (replies, t, s) := serveAll requests t s
    (reply :: replies, t, s)

/-- The name that a request has found bound or has bound, by the reply to it. -/
def Request.bound? : Request ε σ α → Reply ε α → Option String
  | .add name _, _ => some name
  | .getOrInsert name _, .obtained (.ok _) => some name
  | _, _ => none

theorem Request.bound?_obtained {name other : String} {create : σ → Except ε α × σ}
    {r : Except ε α} : (Request.getOrInsert name create).bound? (.obtained r) = some other ↔
      other = name ∧ ∃ a, r = .ok a := by
  cases r <;> simp [Request.bound?, eq_comm]

/-- The names that requests have bound, each as often as it was asked for. -/
def boundNames (requests : List (Request ε σ α)) (replies : List (Reply ε α)) : List String :=
  (requests.zip replies).filterMap fun entry => entry.1.bound? entry.2

/-- Counts how often something is made. -/
def counted (create : σ → Except ε α × σ) : σ × Nat → Except ε α × (σ × Nat) :=
  fun (s, runs) =>
    let (r, s) := create s
    (r, s, runs + 1)

/-- What becomes of a name that is to be bound to what is made. -/
inductive Obtains (t : NameTable α) (name : String) (create : σ → Except ε α × σ) (s : σ) :
    Except ε α × NameTable α × σ → Prop where
  | bound {a : α} (there : t.get? name = some a) : Obtains t name create s (.ok a, t, s)
  | made {a : α} {s' : σ} (free : t.contains name = false) (created : create s = (.ok a, s')) :
    Obtains t name create s (.ok a, t.insert name a, s')
  | failed {err : ε} {s' : σ} (free : t.contains name = false)
      (created : create s = (.error err, s')) : Obtains t name create s (.error err, t, s')

theorem obtains (t : NameTable α) (name : String) (create : σ → Except ε α × σ) (s : σ) :
    t.Obtains name create s (t.getOrInsert name create s) := by
  cases there : t.contains name with
  | true =>
    obtain ⟨a, bound⟩ := exists_get? there
    rw [getOrInsert_of_get? bound]
    exact .bound bound
  | false =>
    cases created : create s with
    | mk r s' =>
      cases r with
      | ok a =>
        rw [getOrInsert_of_ok there created]
        exact .made there created
      | error err =>
        rw [getOrInsert_of_error there created]
        exact .failed there created

namespace Obtains

variable {t : NameTable α} {name : String} {create : σ → Except ε α × σ} {s : σ}
  {done : Except ε α × NameTable α × σ}

theorem kept (h : t.Obtains name create s done) {other : String} {a : α}
    (found : t.get? other = some a) : done.2.1.get? other = some a := by
  cases h with
  | bound there => exact found
  | made free created => exact get?_insert_of_get? found name _
  | failed free created => exact found

theorem of_get? (h : t.Obtains name create s done) {a : α} (there : t.get? name = some a) :
    done = (.ok a, t, s) := by
  cases h with
  | bound there' =>
    cases there'.symm.trans there
    rfl
  | made free created | failed free created =>
    rw [contains_of_get? there] at free
    cases free

theorem of_unbound (h : t.Obtains name create s done) (unbound : t.get? name = none) :
    done.1 = (create s).1 ∧ done.2.2 = (create s).2 := by
  cases h with
  | bound there => cases unbound.symm.trans there
  | made free created | failed free created =>
    rw [created]
    exact ⟨rfl, rfl⟩

theorem get?_of_ok (h : t.Obtains name create s done) {a : α} (obtained : done.1 = .ok a) :
    done.2.1.get? name = some a := by
  cases h with
  | bound there =>
    cases obtained
    exact there
  | made free created =>
    cases obtained
    exact get?_insert_self free a
  | failed free created => cases obtained

theorem of_error (h : t.Obtains name create s done) {err : ε} (failed : done.1 = .error err) :
    done.2.1 = t := by
  cases h with
  | bound there => rfl
  | made free created => cases failed
  | failed free created => rfl

theorem mem_names (h : t.Obtains name create s done) {other : String} :
    other ∈ done.2.1.names ↔ other ∈ t.names ∨ (other = name ∧ ∃ a, done.1 = .ok a) := by
  cases h with
  | bound there =>
    refine ⟨.inl, fun old => old.elim id fun ⟨same, _⟩ => ?_⟩
    exact same ▸ contains_iff_mem.mp (contains_of_get? there)
  | made free created => simp [mem_names_insert]
  | failed free created => simp

end Obtains

theorem kept_serve (request : Request ε σ α) {t : NameTable α} (s : σ) {name : String} {a : α}
    (found : t.get? name = some a) : (serve request t s).2.1.get? name = some a := by
  cases request with
  | add other b => exact get?_insert_of_get? found other b
  | getOrInsert other create => exact (t.obtains other create s).kept found
  | has _ | get _ | size => exact found

theorem mem_names_serve (request : Request ε σ α) (t : NameTable α) (s : σ) {name : String} :
    name ∈ (serve request t s).2.1.names ↔
      name ∈ t.names ∨ request.bound? (serve request t s).1 = some name := by
  cases request with
  | add other b =>
    rw [serve, mem_names_insert]
    simp [Request.bound?, eq_comm]
  | getOrInsert other create =>
    rw [serve, (t.obtains other create s).mem_names, Request.bound?_obtained]
  | has _ | get _ | size => simp [serve, Request.bound?]

theorem kept_serveAll (requests : List (Request ε σ α)) {t : NameTable α} (s : σ) {name : String}
    {a : α} (found : t.get? name = some a) : (serveAll requests t s).2.1.get? name = some a := by
  induction requests generalizing t s with
  | nil => exact found
  | cons request requests ih => exact ih _ (kept_serve request s found)

theorem boundNames_cons (request : Request ε σ α) (requests : List (Request ε σ α))
    (reply : Reply ε α) (replies : List (Reply ε α)) :
    boundNames (request :: requests) (reply :: replies) =
      (request.bound? reply).toList ++ boundNames requests replies := by
  rw [boundNames, List.zip_cons_cons, List.filterMap_cons]
  cases bound : request.bound? reply <;> simp [boundNames]

theorem mem_names_serveAll (requests : List (Request ε σ α)) (t : NameTable α) (s : σ)
    {name : String} : name ∈ (serveAll requests t s).2.1.names ↔
      name ∈ t.names ∨ name ∈ boundNames requests (serveAll requests t s).1 := by
  induction requests generalizing t s with
  | nil => simp [serveAll, boundNames]
  | cons request requests ih =>
    rw [serveAll, boundNames_cons, ih, mem_names_serve, List.mem_append, Option.mem_toList,
      or_assoc]

theorem size_serveAll (requests : List (Request ε σ α)) (s : σ) :
    (serveAll requests empty s).2.1.size =
      (boundNames requests (serveAll requests empty s).1).dedup.length := by
  have same : (serveAll requests empty s).2.1.names.Perm
      (boundNames requests (serveAll requests empty s).1).dedup := by
    refine (List.perm_ext_iff_of_nodup (distinct _) (List.nodup_dedup _)).mpr fun name => ?_
    have bound : name ∈ (serveAll requests empty s).2.1.names ↔ _ :=
      mem_names_serveAll requests empty s
    rw [List.mem_dedup]
    simpa [empty, names] using bound
  rw [← same.length_eq, names, List.length_map, size]

/-- In every table that comes about by binding names, directly or to what is made for them: a bound
name stays bound to what it is bound to; something is made for a name exactly if the name is unbound
at that moment, once; where a name is obtained it is bound to what is obtained, and where it cannot
be obtained the table is as it was. The table has a name exactly if it finds it, and its size is the
number of different names that were bound. -/
theorem serveAll_firstBindings (requests : List (Request ε σ α)) (s : σ) :
    let done := serveAll requests (empty : NameTable α) s
    let t := done.2.1
    (∀ (later : List (Request ε σ α)) (s : σ) name a, t.get? name = some a →
      (serveAll later t s).2.1.get? name = some a) ∧
    (∀ name (create : σ → Except ε α × σ) (s : σ) (runs : Nat),
      let obtained := t.getOrInsert name (counted create) (s, runs)
      (∀ a, t.get? name = some a → obtained = (.ok a, t, s, runs)) ∧
      (t.get? name = none →
        obtained.1 = (create s).1 ∧ obtained.2.2 = ((create s).2, runs + 1)) ∧
      (∀ a, obtained.1 = .ok a → obtained.2.1.get? name = some a) ∧
      ∀ err, obtained.1 = .error err → obtained.2.1 = t) ∧
    (∀ name, t.contains name = true ↔ ∃ a, t.get? name = some a) ∧
    t.size = (boundNames requests done.1).dedup.length := by
  intro done t
  refine ⟨fun later s name a => kept_serveAll later s, fun name create s runs => ?_,
    fun name => ⟨exists_get?, fun ⟨a, found⟩ => contains_of_get? found⟩, size_serveAll requests s⟩
  have course := t.obtains name (counted create) (s, runs)
  exact ⟨fun a => course.of_get?, course.of_unbound, fun a => course.get?_of_ok,
    fun err => course.of_error⟩

end DriverTelemetry.NameTable
