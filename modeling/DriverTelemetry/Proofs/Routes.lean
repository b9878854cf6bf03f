import DriverTelemetry.Proofs.Memory
import DriverTelemetry.Session.Bench

/-!
# Routes of a text

A text reaches the database through its connection, with a context or without one, or through a
statement that was prepared from it at any time before. All of these come to the same job, so the
outcome and the database after it are the same. Preparing touches nothing but the memory of the
connection: while the text is among those used last, the connection goes on to tell what it told
once, and other texts come to the same unless one was forgotten for it.
-/
namespace DriverTelemetry

namespace Embedded

variable {δ : Type} [Engine δ] {d e : Cached δ} {text other : String}

theorem Engine.runAll_single {d : δ} {statement : String} {told told' : List Prepared}
    (same : tell d statement told'.head? = tell d statement told.head?) (supply : Supply) :
    let ran := runAll [statement] told supply d
    let ran' := runAll [statement] told' supply d
    ran'.answer = ran.answer ∧ ran'.left = ran.left ∧
      ∀ fetched, ran.answer = .ok fetched → ran'.told = ran.told := by
  simp only [runAll, same]
  cases tell d statement told.head? with
  | error err => exact ⟨rfl, rfl, fun _ answered => by cases answered⟩
  | ok m =>
    cases performed : perform d statement m supply with
    | mk r after =>
      cases r with
      | error err => simp [performed]
      | ok answer => simp [performed]

namespace Cached

theorem fst_figures_congr (inside : e.inside = d.inside) (system : DatabaseSystem)
    (changes : Nat) : (figures system changes e).1 = (figures system changes d).1 := by
  simp only [figures, readBack, inside]
  split <;> rfl

/-- The connections tell the same of a text: they remember the same of it, or it is one statement
and preparing it tells the same. -/
def ToldAlike (text : String) (d e : Cached δ) : Prop :=
  e.recalled text = d.recalled text ∨
    (Engine.statements (δ := δ) text).length ≤ 1 ∧ (e.prepare text).1 = (d.prepare text).1

namespace ToldAlike

theorem prepare (alike : ToldAlike text d e) (inside : e.inside = d.inside) :
    (e.prepare text).1 = (d.prepare text).1 := by
  rcases alike with same | ⟨-, same⟩
  · simp only [Cached.prepare, inside, same]
  · exact same

theorem columns (alike : ToldAlike text d e) (inside : e.inside = d.inside) (fetched : Fetched) :
    (e.columns text fetched).1 = (d.columns text fetched).1 := by
  unfold Cached.columns
  split
  · rfl
  · exact congrArg (Except.map Prepared.columns) (alike.prepare inside)

theorem run (alike : ToldAlike text d e) (inside : e.inside = d.inside) (args : List Wire) :
    (e.run text args).1 = (d.run text args).1 ∧
      (e.run text args).2.inside = (d.run text args).2.inside ∧
      ∀ fetched, (d.run text args).1 = .ok fetched →
        (e.run text args).2.recalled text = (d.run text args).2.recalled text := by
  simp only [Cached.run, recalled_with_inside, recalled_remember_self]
  rcases alike with same | ⟨short, same⟩
  · rw [same, inside]
    exact ⟨rfl, rfl, fun _ _ => rfl⟩
  · cases statements : Engine.statements (δ := δ) text with
    | nil => simp [Engine.runAll, inside]
    | cons statement rest =>
      have single : rest = [] := by simpa [statements] using short
      subst single
      rw [fst_prepare_of_single statements, fst_prepare_of_single statements, inside] at same
      rw [inside]
      exact Engine.runAll_single same ⟨args, 0⟩

theorem exec (alike : ToldAlike text d e) (inside : e.inside = d.inside) (system : DatabaseSystem)
    (args : List Value) : (e.exec system text args).1 = (d.exec system text args).1 ∧
      (e.exec system text args).2.inside = (d.exec system text args).2.inside := by
  obtain ⟨answer, left, -⟩ := alike.run inside (Wire.bind args)
  constructor
  · rw [fst_exec, fst_exec, answer]
    congr 1
    funext fetched
    exact fst_figures_congr left system fetched.changes
  · rw [inside_exec, inside_exec, left]

theorem query (alike : ToldAlike text d e) (inside : e.inside = d.inside) (args : List Value) :
    (e.query text args).1 = (d.query text args).1 ∧
      (e.query text args).2.inside = (d.query text args).2.inside := by
  obtain ⟨answer, left, remembered⟩ := alike.run inside (Wire.bind args)
  constructor
  · rw [fst_query, fst_query, answer]
    cases ran : (d.run text (Wire.bind args)).1 with
    | error err => rfl
    | ok fetched =>
      -- Without rows the columns are told by what running the text left in the memory.
      have after : ToldAlike text (d.run text (Wire.bind args)).2 (e.run text (Wire.bind args)).2 :=
        .inl (remembered fetched ran)
      have told := after.columns left fetched
      simp only [Except.bind, told]
  · rw [inside_query, inside_query, left]

end ToldAlike

theorem script_congr (inside : e.inside = d.inside) (texts : List String) :
    (script texts e).1 = (script texts d).1 ∧
      (script texts e).2.inside = (script texts d).2.inside := by
  induction texts generalizing d e with
  | nil => exact ⟨rfl, inside⟩
  | cons text texts ih =>
    unfold script execute
    rw [inside]
    rcases Engine.execute d.inside text with ⟨_ | fetched, after⟩
    · exact ⟨rfl, rfl⟩
    · exact ih rfl

end Cached

namespace Job

open Cached

/-- Connections with the same database end a job alike, if they tell the same of its text. -/
theorem run_alike {job : Job} (inside : e.inside = d.inside)
    (alike : ∀ text ∈ job.text?, ToldAlike text d e) (system : DatabaseSystem) :
    (job.run system e).1 = (job.run system d).1 ∧
      (job.run system e).2.inside = (job.run system d).2.inside := by
  cases job with
  | exec text args =>
    obtain ⟨answer, left⟩ := (alike text rfl).exec inside system args
    exact ⟨congrArg Outcome.summary answer, left⟩
  | query text args =>
    obtain ⟨answer, left⟩ := (alike text rfl).query inside args
    exact ⟨congrArg Outcome.rows answer, left⟩
  | prepare text =>
    have answer := (alike text rfl).prepare inside
    refine ⟨?_, inside⟩
    simp only [run, answer]
  | begin texts =>
    obtain ⟨answer, left⟩ := script_congr inside texts
    exact ⟨congrArg Outcome.begun answer, left⟩
  | commit =>
    obtain ⟨answer, left⟩ := script_congr inside ["COMMIT"]
    exact ⟨congrArg Outcome.done answer, left⟩
  | rollback =>
    obtain ⟨answer, left⟩ := script_congr inside ["ROLLBACK"]
    exact ⟨congrArg Outcome.done answer, left⟩
  | ping => exact ⟨rfl, inside⟩

/-- Before each of the jobs the two connections tell the same of its text. -/
inductive AllAlike (system : DatabaseSystem) : Cached δ → Cached δ → List Job → Prop where
  | nil (d e : Cached δ) : AllAlike system d e []
  | cons {d e : Cached δ} {job : Job} {jobs : List Job}
      (alike : ∀ text ∈ job.text?, ToldAlike text d e)
      (later : AllAlike system (job.run system d).2 (job.run system e).2 jobs) :
      AllAlike system d e (job :: jobs)

theorem AllAlike.runAll {system : DatabaseSystem} {jobs : List Job}
    (all : AllAlike system d e jobs) (inside : e.inside = d.inside) :
    (Job.runAll system jobs e).1 = (Job.runAll system jobs d).1 ∧
      (Job.runAll system jobs e).2.inside = (Job.runAll system jobs d).2.inside := by
  induction all with
  | nil => exact ⟨rfl, inside⟩
  | cons alike later ih =>
    obtain ⟨answer, left⟩ := run_alike inside alike system
    obtain ⟨answers, last⟩ := ih left
    rw [runAll_cons, runAll_cons, answer, answers]
    exact ⟨rfl, last⟩

end Job

namespace Cached

variable {told : List Prepared} {others : List String} {system : DatabaseSystem} {n : Nat}

/-- What preparing a text told of all its statements is kept by jobs that use fewer than a hundred
other texts. -/
theorem Keeps.job (new : text ∉ others) (few : others.length < capacity)
    (complete : told.length = (Engine.statements (δ := δ) text).length)
    (keeps : d.Keeps text told others) {job : Job} (uses : job.uses system ⊆ text :: others) :
    (job.run system d).2.Keeps text told others := by
  refine Job.keeps (P := Keeps text told others) keeps (fun used member d keeps => ?_)
    (fun used member d args keeps => ?_) fun _ _ keeps => keeps
  · rcases List.mem_cons.mp (uses member) with rfl | other
    · have same : (d.prepare used).2 = d.remember used told := by
        rw [prepare, keeps.recalled new, Engine.compileAll_of_complete complete]
      exact same ▸ keeps_remember others
    · exact keeps.remember new other few _
  · change Keeps text told others (d.remember used _)
    rcases List.mem_cons.mp (uses member) with rfl | other
    · rw [keeps.recalled new, Engine.told_runAll_of_complete complete]
      exact keeps_remember others
    · exact keeps.remember new other few _

theorem Room.job {used : List String} (room : d.Room n used) {job : Job}
    (uses : job.uses system ⊆ used) : (job.run system d).2.Room n used :=
  Job.keeps (P := Room n used) room (fun _ member _ room => room.remember (uses member) _)
    (fun _ member _ _ room => room.remember (uses member) _) fun _ _ room => room

/-- Two connections to the same database that remember the same, except of one text. -/
structure AlikeBut (text : String) (d e : Cached δ) : Prop where
  inside : e.inside = d.inside
  recalled : ∀ other, other ≠ text → e.recalled other = d.recalled other

namespace AlikeBut

omit [Engine δ] in
theorem remember (alike : AlikeBut text d e) (small : d.memory.length < capacity)
    (small' : e.memory.length < capacity) (other : String) {told told' : List Prepared}
    (same : other ≠ text → told' = told) :
    AlikeBut text (d.remember other told) (e.remember other told') where
  inside := alike.inside
  recalled third different := by
    by_cases again : third = other
    · subst again
      simpa using same different
    · rw [recalled_remember_of_lt again small, recalled_remember_of_lt again small']
      exact alike.recalled third different

section

variable {used : List String} (room : d.Room n used) (room' : e.Room n used)
  (fits : used.length + n < capacity)
include room room' fits

theorem prepare (alike : AlikeBut text d e) (other : String) :
    AlikeBut text (d.prepare other).2 (e.prepare other).2 := by
  have small := Nat.lt_of_le_of_lt room.length_le fits
  have small' := Nat.lt_of_le_of_lt room'.length_le fits
  apply alike.remember small small' other
  intro different
  rw [alike.inside, alike.recalled other different]

theorem run (alike : AlikeBut text d e) (different : other ≠ text) (args : List Wire) :
    (e.run other args).1 = (d.run other args).1 ∧
      AlikeBut text (d.run other args).2 (e.run other args).2 := by
  have small := Nat.lt_of_le_of_lt room.length_le fits
  have small' := Nat.lt_of_le_of_lt room'.length_le fits
  have ran : Engine.runAll (Engine.statements (δ := δ) other) (e.recalled other) ⟨args, 0⟩
      e.inside = Engine.runAll (Engine.statements (δ := δ) other) (d.recalled other) ⟨args, 0⟩
        d.inside := by
    rw [alike.inside, alike.recalled other different]
  have remembered := alike.remember small small' other fun _ => congrArg Ran.told ran
  exact ⟨congrArg Ran.answer ran, congrArg Ran.left ran, remembered.recalled⟩

/-- As long as no text has to be forgotten, jobs with other texts leave such connections. -/
theorem job (alike : AlikeBut text d e) {job : Job} (different : job.text? ≠ some text)
    (uses : job.uses system ⊆ used) :
    AlikeBut text (job.run system d).2 (job.run system e).2 := by
  have script (texts : List String) :
      AlikeBut text (Cached.script texts d).2 (Cached.script texts e).2 := by
    obtain ⟨inside, left⟩ := snd_script texts d
    obtain ⟨inside', left'⟩ := snd_script texts e
    have same := (script_congr alike.inside texts).2
    rw [left, left'] at same ⊢
    exact ⟨same, alike.recalled⟩
  cases job with
  | exec other args =>
    have distinct : other ≠ text := fun same => different (congrArg some same)
    obtain ⟨answer, after⟩ := alike.run room room' fits distinct (Wire.bind args)
    have member := uses List.mem_cons_self
    have ran : (d.run other (Wire.bind args)).2.Room n used := room.remember member _
    have ran' : (e.run other (Wire.bind args)).2.Room n used := room'.remember member _
    change AlikeBut text (d.exec system other args).2 (e.exec system other args).2
    rw [snd_exec, snd_exec, answer]
    split
    · exact after
    · rw [snd_figures, snd_figures]
      split
      · exact after.prepare ran ran' fits lastInsertId
      · exact after
  | query other args =>
    have distinct : other ≠ text := fun same => different (congrArg some same)
    obtain ⟨answer, after⟩ := alike.run room room' fits distinct (Wire.bind args)
    have member := uses List.mem_cons_self
    have ran : (d.run other (Wire.bind args)).2.Room n used := room.remember member _
    have ran' : (e.run other (Wire.bind args)).2.Room n used := room'.remember member _
    change AlikeBut text (d.query other args).2 (e.query other args).2
    rw [snd_query, snd_query, answer]
    split
    · exact after
    · rw [snd_columns, snd_columns]
      split
      · exact after.prepare ran ran' fits other
      · exact after
  | prepare other => exact alike.prepare room room' fits other
  | begin texts => exact script texts
  | commit => exact script ["COMMIT"]
  | rollback => exact script ["ROLLBACK"]
  | ping => exact alike

end

end AlikeBut

end Cached

end Embedded

namespace Pool

open Embedded

variable {δ : Type} [Engine δ]

variable {part : {α : Type} → Call (Databases δ) α → Call σ α} {id : BaseId}
  {system : DatabaseSystem} {n : Nat} {view : σ → Databases δ} {p : Pool σ} {text : String}

end Pool
end DriverTelemetry
