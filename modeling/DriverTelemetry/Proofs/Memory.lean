import DriverTelemetry.Proofs.JobRuns
import Mathlib.Data.List.Nodup
import Mathlib.Data.List.Perm.Subperm

/-!
# What a connection remembers

A text is remembered until it is the one that was not used for longest of more than a hundred. What
has once been told of all statements of a text stays as it is while the text is remembered, and
nothing but what compiling tells ever gets into the memory.
-/
namespace DriverTelemetry.Embedded

theorem Prepared.ofAll_singleton (m : Prepared) : ofAll [m] = m := by
  obtain ⟨inputs, unnumbered, columns⟩ := m
  cases columns <;> simp [ofAll]

variable {δ : Type}

section

variable [Engine δ]

namespace Engine

variable {d : δ} {statements : List String} {told : List Prepared} {supply : Supply}

theorem compileAll_of_complete (complete : told.length = statements.length) :
    compileAll d statements told = (told, .ok ()) := by
  induction statements generalizing told with
  | nil =>
    rw [List.eq_nil_of_length_eq_zero complete]
    rfl
  | cons statement statements ih =>
    cases told with
    | nil => cases complete
    | cons m told =>
      have rest := ih (Nat.succ.inj complete)
      simp [compileAll, tell, rest]

theorem told_runAll_of_complete (complete : told.length = statements.length) :
    (runAll statements told supply d).told = told := by
  induction statements generalizing told supply d with
  | nil =>
    rw [List.eq_nil_of_length_eq_zero complete]
    rfl
  | cons statement statements ih =>
    cases told with
    | nil => cases complete
    | cons m told =>
      simp only [runAll, List.head?_cons, tell, List.tail_cons]
      split
      · rfl
      · exact congrArg (m :: ·) (ih (Nat.succ.inj complete))

theorem length_told_runAll {fetched : Fetched}
    (ran : (runAll statements told supply d).answer = .ok fetched) :
    (runAll statements told supply d).told.length = statements.length := by
  induction statements generalizing told supply d fetched with
  | nil => rfl
  | cons statement statements ih =>
    unfold runAll at ran ⊢
    split at ran
    · cases ran
    · split at ran
      · cases ran
      · obtain ⟨rest, later, -⟩ := Result.of_map_eq_ok ran
        exact congrArg Nat.succ (ih later)

variable (δ) in
/-- What compiling has told of the first of some statements, of each at some time. -/
inductive Told : List String → List Prepared → Prop where
  | nil (statements : List String) : Told statements []
  | cons {past : δ} {statement : String} {m : Prepared} {statements : List String}
      {told : List Prepared} (compiled : compile past statement = .ok m)
      (rest : Told statements told) : Told (statement :: statements) (m :: told)

theorem Told.tail {statement : String} (h : Told δ (statement :: statements) told) :
    Told δ statements told.tail := by
  cases h with
  | nil => exact .nil statements
  | cons compiled rest => exact rest

/-- What is told of a statement was told by compiling it, now or before. -/
theorem Told.exists_compile {statement : String} {m : Prepared}
    (h : Told δ (statement :: statements) told) (tells : tell d statement told.head? = .ok m) :
    ∃ past : δ, compile past statement = .ok m := by
  cases h with
  | nil => exact ⟨d, tells⟩
  | cons compiled rest =>
    cases tells
    exact ⟨_, compiled⟩

theorem Told.compileAll (h : Told δ statements told) :
    Told δ statements (compileAll d statements told).1 := by
  induction statements generalizing told with
  | nil => exact .nil []
  | cons statement statements ih =>
    unfold Engine.compileAll
    split
    · exact h
    · next m tells =>
      obtain ⟨past, compiled⟩ := h.exists_compile tells
      exact .cons compiled (ih h.tail)

theorem Told.runAll (h : Told δ statements told) :
    Told δ statements (runAll statements told supply d).told := by
  induction statements generalizing told supply d with
  | nil => exact .nil []
  | cons statement statements ih =>
    unfold Engine.runAll
    split
    · exact h
    · next m tells =>
      obtain ⟨past, compiled⟩ := h.exists_compile tells
      split
      · exact .cons compiled h.tail
      · exact .cons compiled (ih h.tail)

end Engine

end

namespace Cached

variable {d : Cached δ} {text other : String} {told : List Prepared}

@[simp] theorem recalled_with_inside (inside : δ) :
    { d with inside }.recalled text = d.recalled text := rfl

@[simp] theorem recalled_remember_self : (d.remember text told).recalled text = told := by
  simp [recalled, remember, capacity]

theorem lookup_filter_of_ne (memory : List (String × List Prepared)) (different : other ≠ text) :
    (memory.filter fun entry => entry.1 != text).lookup other = memory.lookup other := by
  induction memory with
  | nil => rfl
  | cons entry memory ih =>
    obtain ⟨key, told⟩ := entry
    by_cases same : key = text
    · subst same
      simp [ih, List.lookup_cons, beq_false_of_ne different]
    · simp [same, ih, List.lookup_cons]

theorem recalled_remember_of_lt (different : other ≠ text) (room : d.memory.length < capacity) :
    (d.remember text told).recalled other = d.recalled other := by
  have short : (d.memory.filter fun entry => entry.1 != text).length ≤ 99 :=
    Nat.le_of_lt_succ (Nat.lt_of_le_of_lt (List.length_filter_le _ _) room)
  simp only [recalled, remember, capacity, List.take_succ_cons, List.lookup_cons,
    beq_false_of_ne different, List.take_of_length_le short, lookup_filter_of_ne _ different]

/-- Using the text that was used last changes nothing, unless something new is told of it. -/
theorem remember_remember : (d.remember text told).remember text told = d.remember text told := by
  have others (memory : List (String × List Prepared)) :
      (((memory.filter fun entry => entry.1 != text).take 99).filter fun entry =>
        entry.1 != text) = (memory.filter fun entry => entry.1 != text).take 99 :=
    List.filter_eq_self.mpr fun entry member =>
      (List.mem_filter.mp (List.mem_of_mem_take member)).2
  simp [remember, capacity, others, List.take_take]

/-- What a connection remembers is `older` behind texts that have been used since, each of which is
one of `others`. -/
def Since (others : List String) (older : List (String × List Prepared)) (d : Cached δ) : Prop :=
  ∃ newer : List (String × List Prepared), d.memory = newer ++ older ∧
    (newer.map Prod.fst).Nodup ∧ newer.map Prod.fst ⊆ others

/-- Using one of the others takes no more from what is older than there are others. -/
theorem Since.remember {others : List String} {older : List (String × List Prepared)}
    (since : d.Since others older) (used : text ∈ others) (told : List Prepared) :
    ∃ n ≤ others.length, (d.remember text told).Since others
      ((older.filter fun entry => entry.1 != text).take (capacity - n)) := by
  obtain ⟨newer, memory, distinct, among⟩ := since
  let first := (text, told) :: newer.filter fun entry => entry.1 != text
  have names : (newer.filter fun entry => entry.1 != text).map Prod.fst =
      (newer.map Prod.fst).filter (· != text) := by
    rw [List.filter_map]
    rfl
  have distinct' : (first.map Prod.fst).Nodup := by
    rw [List.map_cons, names, List.nodup_cons]
    exact ⟨by simp, distinct.filter _⟩
  have among' : first.map Prod.fst ⊆ others := by
    rw [List.map_cons, names]
    exact List.cons_subset.mpr ⟨used, List.Subset.trans (List.filter_subset_self _) among⟩
  refine ⟨first.length, ?_, first.take capacity, ?_, ?_, ?_⟩
  · simpa using (distinct'.subperm among').length_le
  · simp only [Cached.remember, memory, List.filter_append, ← List.cons_append]
    exact List.take_append
  · rw [List.map_take]
    exact distinct'.take
  · rw [List.map_take]
    exact List.Subset.trans (List.take_subset _ _) among'

/-- A text is among the texts that were used last, with what was told of it and only such texts
before it as are among the others. -/
def Keeps (text : String) (told : List Prepared) (others : List String) (d : Cached δ) : Prop :=
  ∃ older, d.Since others ((text, told) :: older)

theorem keeps_remember (others : List String) : (d.remember text told).Keeps text told others :=
  ⟨_, [], rfl, List.nodup_nil, List.nil_subset others⟩

theorem Keeps.recalled {others : List String} (keeps : d.Keeps text told others)
    (new : text ∉ others) : d.recalled text = told := by
  obtain ⟨older, newer, memory, -, among⟩ := keeps
  have absent : newer.lookup text = none := by
    apply List.lookup_eq_none_iff.mpr
    intro entry member
    have other : text ≠ entry.1 := fun same => new (same ▸ among (List.mem_map_of_mem member))
    simpa using other
  simp [Cached.recalled, memory, List.lookup_append, absent]

/-- A text is kept while fewer than a hundred others are used. -/
theorem Keeps.remember {others : List String} (keeps : d.Keeps text told others)
    (new : text ∉ others) (used : other ∈ others) (few : others.length < capacity)
    (told' : List Prepared) : (d.remember other told').Keeps text told others := by
  obtain ⟨older, since⟩ := keeps
  obtain ⟨n, fits, since⟩ := since.remember used told'
  have different : text ≠ other := fun same => new (same ▸ used)
  obtain ⟨room, enough⟩ := Nat.exists_eq_succ_of_ne_zero
    (Nat.sub_ne_zero_of_lt (Nat.lt_of_le_of_lt fits few))
  refine ⟨(older.filter fun entry => entry.1 != other).take room, ?_⟩
  rw [enough] at since
  simpa [List.filter_cons, different] using since

/-- A connection remembers at most so many texts besides the others. -/
def Room (n : Nat) (others : List String) (d : Cached δ) : Prop :=
  ∃ older : List (String × List Prepared), older.length ≤ n ∧ d.Since others older

theorem Room.length_le {n : Nat} {others : List String} (room : d.Room n others) :
    d.memory.length ≤ others.length + n := by
  obtain ⟨older, fits, newer, memory, distinct, among⟩ := room
  have bounded := (distinct.subperm among).length_le
  rw [List.length_map] at bounded
  rw [memory, List.length_append]
  exact Nat.add_le_add bounded fits

theorem Room.remember {n : Nat} {others : List String} (room : d.Room n others)
    (used : text ∈ others) (told : List Prepared) : (d.remember text told).Room n others := by
  obtain ⟨older, fits, since⟩ := room
  obtain ⟨m, -, since⟩ := since.remember used told
  refine ⟨_, ?_, since⟩
  have filtered := List.length_filter_le (fun entry => entry.1 != text) older
  have taken := List.length_take_le' (capacity - m) (older.filter fun entry => entry.1 != text)
  omega

section

variable [Engine δ]

theorem fst_prepare_of_single {statement : String}
    (single : Engine.statements (δ := δ) text = [statement]) :
    (d.prepare text).1 = Engine.tell d.inside statement (d.recalled text).head? := by
  simp only [prepare, single, Engine.compileAll]
  cases Engine.tell d.inside statement (d.recalled text).head? with
  | error err => rfl
  | ok m => exact congrArg Except.ok (Prepared.ofAll_singleton m)

theorem fst_exec (system : DatabaseSystem) (args : List Value) :
    (d.exec system text args).1 = (d.run text (Wire.bind args)).1.map fun fetched =>
      (figures system fetched.changes (d.run text (Wire.bind args)).2).1 := by
  unfold exec
  split <;> next ran => rw [ran]; rfl

theorem fst_query (args : List Value) :
    (d.query text args).1 = (d.run text (Wire.bind args)).1.bind fun fetched =>
      ((d.run text (Wire.bind args)).2.columns text fetched).1.bind fun names =>
        (decodeRows (fetched.rows.map Prod.snd)).map (.ofList names) := by
  unfold query
  split
  · next ran =>
    rw [ran]
    rfl
  · next ran =>
    simp only [ran, Except.bind]
    split <;> next told => rw [told]

theorem snd_figures (system : DatabaseSystem) (changes : Nat) (d : Cached δ) :
    (figures system changes d).2 = if system = .sqlite then (d.prepare lastInsertId).2 else d := by
  unfold figures
  split <;> rfl

theorem snd_exec (system : DatabaseSystem) (args : List Value) :
    (d.exec system text args).2 = match (d.run text (Wire.bind args)).1 with
      | .error _ => (d.run text (Wire.bind args)).2
      | .ok fetched => (figures system fetched.changes (d.run text (Wire.bind args)).2).2 := by
  unfold exec
  split <;> next ran => rw [ran]

theorem snd_columns (fetched : Fetched) :
    (d.columns text fetched).2 = match fetched.rows with
      | [] => (d.prepare text).2
      | _ :: _ => d := by
  unfold columns
  split <;> next filled => rw [filled]

theorem snd_query (args : List Value) :
    (d.query text args).2 = match (d.run text (Wire.bind args)).1 with
      | .error _ => (d.run text (Wire.bind args)).2
      | .ok fetched => ((d.run text (Wire.bind args)).2.columns text fetched).2 := by
  unfold query
  split
  · next ran => rw [ran]
  · next ran =>
    rw [ran]
    split <;> next told => simp only [told]

theorem snd_script (texts : List String) (d : Cached δ) :
    ∃ inside, (script texts d).2 = { d with inside } := by
  induction texts generalizing d with
  | nil => exact ⟨d.inside, rfl⟩
  | cons text texts ih =>
    unfold script execute
    split
    · next executed =>
      rw [← (Prod.mk.inj executed).2]
      exact ⟨_, rfl⟩
    · next executed =>
      rw [← (Prod.mk.inj executed).2]
      exact ih _

end

end Cached

namespace Job

variable [Engine δ] {system : DatabaseSystem} {P : Cached δ → Prop} {d : Cached δ}

def text? : Job → Option String
  | .exec text _ | .query text _ | .prepare text => some text
  | .begin _ | .commit | .rollback | .ping => none

/-- The texts that a job leaves in the memory. -/
def uses (system : DatabaseSystem) : Job → List String
  | .exec text _ => text :: if system = .sqlite then [Cached.lastInsertId] else []
  | .query text _ | .prepare text => [text]
  | .begin _ | .commit | .rollback | .ping => []

/-- What every use of a text keeps, as far as the memory goes, jobs that use such texts keep. -/
theorem keeps {job : Job} (h : P d)
    (prepares : ∀ text ∈ job.uses system, ∀ d : Cached δ, P d → P (d.prepare text).2)
    (runs : ∀ text ∈ job.uses system, ∀ (d : Cached δ) args, P d → P (d.run text args).2)
    (executes : ∀ (d : Cached δ) inside, P d → P { d with inside }) :
    P (job.run system d).2 := by
  have script (texts : List String) : P (d.script texts).2 := by
    obtain ⟨inside, left⟩ := Cached.snd_script texts d
    rw [left]
    exact executes d inside h
  cases job with
  | exec text args =>
    have ran := runs text List.mem_cons_self d (Wire.bind args) h
    change P (d.exec system text args).2
    rw [Cached.snd_exec]
    split
    · exact ran
    · rw [Cached.snd_figures]
      split
      · next sqlite => exact prepares _ (by simp [uses, sqlite]) _ ran
      · exact ran
  | query text args =>
    have used : text ∈ (Job.query text args).uses system := List.mem_singleton.mpr rfl
    have ran := runs text used d (Wire.bind args) h
    change P (d.query text args).2
    rw [Cached.snd_query]
    split
    · exact ran
    · rw [Cached.snd_columns]
      split
      · exact prepares text used _ ran
      · exact ran
  | prepare text => exact prepares text (List.mem_singleton.mpr rfl) d h
  | begin texts => exact script texts
  | commit => exact script ["COMMIT"]
  | rollback => exact script ["ROLLBACK"]
  | ping => exact h

end Job
end DriverTelemetry.Embedded
