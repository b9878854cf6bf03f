import DriverTelemetry.Proofs.Memory
import DriverTelemetry.Session.Bench

/-!
# Transactions across handles

All handles of an embedded connection work on one database, so a transaction that was begun through
one of them holds whatever is done through any of them. While it stays open, a rollback undoes all
of it, a commit leaves what it would have left without a transaction or fails as a whole, and no
second transaction begins. What the engine does with a single statement is assumed. A statement may
end the transaction by failing, after which there is nothing left to roll back.
-/
namespace DriverTelemetry

namespace Embedded

/-- How an engine treats transactions. -/
structure Transactions (δ Session Contents : Type) [Engine δ] where
  /-- All that statements depend on and may change, apart from the transaction. -/
  session : δ → Session
  /-- The tables and all that is in them. -/
  contents : Session → Contents
  /-- What a rollback goes back to, while a transaction is open. -/
  saved : δ → Option Contents
  /-- The statements that can begin a transaction. -/
  begins : String → Prop
  compile_session : ∀ {d d' : δ} statement, session d = session d' →
    Engine.compile d statement = Engine.compile d' statement
  /-- There are no transactions within transactions: a statement leaves the one that is open or
  ends it. -/
  perform_open : ∀ {d c} statement m supply, saved d = some c →
    saved (Engine.perform d statement m supply).2 = some c ∨
      saved (Engine.perform d statement m supply).2 = none
  perform_closed : ∀ {d statement} m supply, ¬ begins statement → saved d = none →
    saved (Engine.perform d statement m supply).2 = none
  begin_closed : ∀ {d}, saved d = none → (∃ a, (Engine.execute d "BEGIN").1 = .ok a) ∧
    session (Engine.execute d "BEGIN").2 = session d ∧
    saved (Engine.execute d "BEGIN").2 = some (contents (session d))
  begin_open : ∀ {d c}, saved d = some c → ∃ err, Engine.execute d "BEGIN" = (.error err, d)
  /-- The statements that begin a transaction in another dialect are no statements here. -/
  begin_foreign : ∀ {system : DatabaseSystem} {opts : TxOptions} {texts},
    opts.beginStatements system = .ok texts → texts ≠ ["BEGIN"] → ∃ text rest,
      texts = text :: rest ∧ ∀ d : δ, ∃ err, Engine.execute d text = (.error err, d)
  /-- A commit that fails leaves the transaction open as it is, or rolls it back. -/
  commit_open : ∀ {d c}, saved d = some c →
    ((∃ a, (Engine.execute d "COMMIT").1 = .ok a) ∧
      session (Engine.execute d "COMMIT").2 = session d ∧
      saved (Engine.execute d "COMMIT").2 = none) ∨
    ((∃ err, (Engine.execute d "COMMIT").1 = .error err) ∧
      ((Engine.execute d "COMMIT").2 = d ∨
        contents (session (Engine.execute d "COMMIT").2) = c ∧
          saved (Engine.execute d "COMMIT").2 = none))
  rollback_open : ∀ {d c}, saved d = some c → (∃ a, (Engine.execute d "ROLLBACK").1 = .ok a) ∧
    contents (session (Engine.execute d "ROLLBACK").2) = c ∧
    saved (Engine.execute d "ROLLBACK").2 = none

namespace Job

def isBegin : Job → Bool
  | .begin _ => true
  | _ => false

variable {δ Session Contents : Type} [Engine δ]

variable (δ) in
def statements : Job → List String
  | .exec text _ | .query text _ => Engine.statements (δ := δ) text
  | .prepare _ | .begin _ | .commit | .rollback | .ping => []

/-- What may be done in a transaction; a begin may be attempted. -/
def StaysIn (T : Transactions δ Session Contents) (system : DatabaseSystem) : Job → Prop
  | .exec text _ | .query text _ => ∀ statement ∈ Engine.statements (δ := δ) text,
      ¬ T.begins statement
  | .prepare _ | .ping => True
  | .begin texts => ∃ opts : TxOptions, opts.beginStatements system = .ok texts
  | .commit | .rollback => False

end Job

namespace Cached

variable {δ : Type} [Engine δ] {d : Cached δ} {text : String}

theorem script_of_error {texts : List String} {err : DriverError}
    (fails : Engine.execute d.inside text = (.error err, d.inside)) :
    d.script (text :: texts) = (.error err, d) := by
  simp only [script, execute, fails]

end Cached

namespace Transactions

variable {δ Session Contents : Type} [Engine δ] (T : Transactions δ Session Contents)
  {system : DatabaseSystem} {c : Contents}

section

variable {d d' : δ} {statements : List String} {told : List Prepared} {supply : Supply}

theorem saved_runAll_closed (plain : ∀ statement ∈ statements, ¬ T.begins statement)
    (closed : T.saved d = none) :
    T.saved (Engine.runAll statements told supply d).left = none := by
  induction statements generalizing told supply d with
  | nil => exact closed
  | cons statement statements ih =>
    obtain ⟨first, later⟩ := List.forall_mem_cons.mp plain
    unfold Engine.runAll
    split
    · exact closed
    · next m _ =>
      have after := T.perform_closed m supply first closed
      split
      · next performed => rwa [performed] at after
      · next performed =>
        rw [performed] at after
        exact ih later after

theorem saved_runAll_open (plain : ∀ statement ∈ statements, ¬ T.begins statement)
    (opened : T.saved d = some c) :
    T.saved (Engine.runAll statements told supply d).left = some c ∨
      T.saved (Engine.runAll statements told supply d).left = none := by
  induction statements generalizing told supply d with
  | nil => exact .inl opened
  | cons statement statements ih =>
    obtain ⟨first, later⟩ := List.forall_mem_cons.mp plain
    unfold Engine.runAll
    split
    · exact .inl opened
    · next m _ =>
      have after := T.perform_open statement m supply opened
      split
      · next performed => rwa [performed] at after
      · next performed =>
        rw [performed] at after
        rcases after with stays | ends
        · exact ih later stays
        · exact .inr (T.saved_runAll_closed later ends)

/-- A statement that leaves a transaction open does the same in it as without one. -/
def Indifferent (statement : String) : Prop :=
  ∀ {d d' : δ} {c : Contents} m supply, T.session d = T.session d' →
    T.saved d = some c → T.saved d' = none →
    T.saved (Engine.perform d statement m supply).2 = some c →
    (Engine.perform d statement m supply).1 = (Engine.perform d' statement m supply).1 ∧
      T.session (Engine.perform d statement m supply).2 =
        T.session (Engine.perform d' statement m supply).2

theorem tell_session (same : T.session d = T.session d') (statement : String)
    (told : Option Prepared) :
    Engine.tell d statement told = Engine.tell d' statement told := by
  cases told with
  | none => exact T.compile_session statement same
  | some m => rfl

theorem session_runAll_statements (plain : ∀ statement ∈ statements, ¬ T.begins statement)
    (indifferent : ∀ statement ∈ statements, T.Indifferent statement)
    (same : T.session d = T.session d') (opened : T.saved d = some c) (closed : T.saved d' = none)
    (last : T.saved (Engine.runAll statements told supply d).left = some c) :
    let ran := Engine.runAll statements told supply d
    let ran' := Engine.runAll statements told supply d'
    ran.told = ran'.told ∧ ran.answer = ran'.answer ∧ T.session ran.left = T.session ran'.left := by
  induction statements generalizing told supply d d' with
  | nil => exact ⟨rfl, rfl, same⟩
  | cons statement statements ih =>
    obtain ⟨first, later⟩ := List.forall_mem_cons.mp plain
    obtain ⟨does, do'⟩ := List.forall_mem_cons.mp indifferent
    simp only [Engine.runAll, T.tell_session same] at last ⊢
    cases tells : Engine.tell d' statement told.head? with
    | error err => exact ⟨rfl, rfl, same⟩
    | ok m =>
      rw [tells] at last
      have after := T.perform_open statement m supply opened
      have after' := T.perform_closed m supply first closed
      have alike := does m supply same opened closed
      rcases performed : Engine.perform d statement m supply with ⟨r, d₁⟩
      rcases performed' : Engine.perform d' statement m supply with ⟨r', d₁'⟩
      simp only [performed, performed'] at last after after' alike ⊢
      cases r with
      | error err =>
        obtain ⟨rfl, same⟩ := alike last
        exact ⟨rfl, rfl, same⟩
      | ok answer =>
        -- Had the statement ended the transaction, none would be open in the end.
        rcases after with stays | ends
        · obtain ⟨rfl, same⟩ := alike stays
          obtain ⟨told, answer, session⟩ := ih later do' same stays after' last
          exact ⟨congrArg (m :: ·) told, congrArg (Except.map _) answer, session⟩
        · rw [T.saved_runAll_closed later ends] at last
          cases last

end

variable {d e : Cached δ}

theorem script_begin {opts : TxOptions} {texts : List String} (opened : T.saved d.inside = some c)
    (begins : opts.beginStatements system = .ok texts) :
    ∃ err, d.script texts = (.error err, d) := by
  by_cases plain : texts = ["BEGIN"]
  · obtain ⟨err, fails⟩ := T.begin_open opened
    rw [plain]
    exact ⟨err, Cached.script_of_error fails⟩
  · obtain ⟨text, rest, rfl, fails⟩ := T.begin_foreign begins plain
    obtain ⟨err, fails⟩ := fails d.inside
    exact ⟨err, Cached.script_of_error fails⟩

theorem run_begin {texts : List String} (opened : T.saved d.inside = some c)
    (stays : (Job.begin texts).StaysIn T system) :
    ∃ err, (Job.begin texts).run system d = (.begun (.error err), d) := by
  obtain ⟨opts, begins⟩ := stays
  obtain ⟨err, fails⟩ := T.script_begin opened begins
  exact ⟨err, by rw [Job.run, fails]⟩

theorem saved_job {job : Job} (opened : T.saved d.inside = some c) (stays : job.StaysIn T system) :
    T.saved (job.run system d).2.inside = some c ∨ T.saved (job.run system d).2.inside = none := by
  cases job with
  | exec text args =>
    rw [Job.run, Cached.inside_exec]
    exact T.saved_runAll_open stays opened
  | query text args =>
    rw [Job.run, Cached.inside_query]
    exact T.saved_runAll_open stays opened
  | prepare text => exact .inl opened
  | begin texts =>
    obtain ⟨err, fails⟩ := T.run_begin opened stays
    rw [fails]
    exact .inl opened
  | commit | rollback => cases stays
  | ping => exact .inl opened

/-- The transaction is open before each of the jobs and in the end, with the same to go back to. -/
inductive Holds (system : DatabaseSystem) (c : Contents) : List Job → Cached δ → Prop where
  | nil {d : Cached δ} (opened : T.saved d.inside = some c) : Holds system c [] d
  | cons {job : Job} {jobs : List Job} {d : Cached δ} (opened : T.saved d.inside = some c)
      (rest : Holds system c jobs (job.run system d).2) : Holds system c (job :: jobs) d

variable {T}

theorem Holds.opened {jobs : List Job} (holds : T.Holds system c jobs d) :
    T.saved d.inside = some c := by
  cases holds with
  | nil opened => exact opened
  | cons opened rest => exact opened

theorem Holds.last {jobs : List Job} (holds : T.Holds system c jobs d) :
    T.saved (Job.runAll system jobs d).2.inside = some c := by
  induction holds with
  | nil opened => exact opened
  | cons opened rest ih => exact ih

variable (T) in
/-- Two connections in one session that remember the same, whatever transactions are open. -/
structure Level (d e : Cached δ) : Prop where
  session : T.session d.inside = T.session e.inside
  memory : d.memory = e.memory

namespace Level

theorem remember (level : T.Level d e) (text : String) (told : List Prepared) :
    T.Level (d.remember text told) (e.remember text told) where
  session := level.session
  memory := by simp only [Cached.remember, level.memory]

theorem compileAll (same : T.session d.inside = T.session e.inside) (statements : List String)
    (told : List Prepared) :
    Engine.compileAll d.inside statements told = Engine.compileAll e.inside statements told := by
  induction statements generalizing told with
  | nil => rfl
  | cons statement statements ih => simp only [Engine.compileAll, T.tell_session same, ih]

theorem recalled (level : T.Level d e) (text : String) : d.recalled text = e.recalled text := by
  rw [Cached.recalled, Cached.recalled, level.memory]

theorem prepare (level : T.Level d e) (text : String) :
    T.Level (d.prepare text).2 (e.prepare text).2 := by
  have told := compileAll level.session (Engine.statements (δ := δ) text) (d.recalled text)
  rw [Cached.prepare, Cached.prepare, told, level.recalled]
  exact level.remember text _

theorem run (level : T.Level d e) {text : String} {args : List Wire}
    (plain : ∀ statement ∈ Engine.statements (δ := δ) text, ¬ T.begins statement)
    (indifferent : ∀ statement ∈ Engine.statements (δ := δ) text, T.Indifferent statement)
    (opened : T.saved d.inside = some c) (closed : T.saved e.inside = none)
    (last : T.saved (d.run text args).2.inside = some c) :
    (d.run text args).1 = (e.run text args).1 ∧
      T.Level (d.run text args).2 (e.run text args).2 := by
  obtain ⟨told, answer, session⟩ :=
    T.session_runAll_statements plain indifferent level.session opened closed last
  simp only [Cached.run, ← level.recalled]
  refine ⟨answer, session, ?_⟩
  rw [told]
  exact (level.remember text _).memory

/-- A job that leaves a transaction open does the same in it as without one. -/
theorem job (level : T.Level d e) {job : Job} (stays : job.StaysIn T system)
    (other : job.isBegin = false)
    (indifferent : ∀ statement ∈ job.statements δ, T.Indifferent statement)
    (opened : T.saved d.inside = some c) (closed : T.saved e.inside = none)
    (last : T.saved (job.run system d).2.inside = some c) :
    T.Level (job.run system d).2 (job.run system e).2 := by
  cases job with
  | exec text args =>
    rw [Job.run, Cached.inside_exec] at last
    obtain ⟨answer, after⟩ := level.run stays indifferent opened closed last
    change T.Level (d.exec system text args).2 (e.exec system text args).2
    rw [Cached.snd_exec, Cached.snd_exec, answer]
    split
    · exact after
    · rw [Cached.snd_figures, Cached.snd_figures]
      split
      · exact after.prepare Cached.lastInsertId
      · exact after
  | query text args =>
    rw [Job.run, Cached.inside_query] at last
    obtain ⟨answer, after⟩ := level.run stays indifferent opened closed last
    change T.Level (d.query text args).2 (e.query text args).2
    rw [Cached.snd_query, Cached.snd_query, answer]
    split
    · exact after
    · rw [Cached.snd_columns, Cached.snd_columns]
      split
      · exact after.prepare text
      · exact after
  | prepare text => exact level.prepare text
  | begin texts => cases other
  | commit | rollback => cases stays
  | ping => exact level

end Level

end Transactions
namespace Tables

variable {d : Tables}

def isControl : Command → Bool
  | .begin | .commit | .rollback => true
  | _ => false

/-- The tables and the counters, without what a rollback goes back to. -/
def session (d : Tables) : Contents × Nat × Nat := (d.contents, d.lastInsertId, d.changes)

theorem eq_withSaved {d d' : Tables} (same : session d = session d') :
    d' = { d with saved := d'.saved } := by
  obtain ⟨contents, saved, id, changes⟩ := d
  obtain ⟨contents', saved', id', changes'⟩ := d'
  cases same
  rfl

theorem saved_perform {supply : Supply} {command : Command} {after : Tables}
    (performed : d.perform supply command = .ok after) (other : command ≠ .begin) :
    after.saved = d.saved ∨ after.saved = none := by
  cases command with
  | begin => exact absurd rfl other
  | insertFirst =>
    simp only [perform] at performed
    split at performed
    · cases performed
    · cases performed
      exact .inl rfl
  | commit | rollback =>
    simp only [perform] at performed
    split at performed
    · cases performed
    · cases performed
      exact .inr rfl
  | _ =>
    cases performed
    exact .inl rfl

theorem saved_afterFailure (command : Command) :
    (d.afterFailure command).saved = d.saved ∨ (d.afterFailure command).saved = none := by
  cases command with
  | insertFirst => exact .inr rfl
  | _ => exact .inl rfl

theorem saved_run (supply : Supply) {command : Command} (other : command ≠ .begin) :
    (d.run supply command).2.saved = d.saved ∨ (d.run supply command).2.saved = none := by
  unfold run
  split
  · exact .inl rfl
  · split
    · exact saved_afterFailure command
    · next performed => exact saved_perform performed other

theorem run_begin_of_saved (supply : Supply) {contents : Contents}
    (opened : d.saved = some contents) : (d.run supply .begin).2 = d := by
  simp only [run, check, perform, opened]
  rfl

theorem perform_withSaved (saved : Option Contents) (supply : Supply) {command : Command}
    (other : isControl command = false) :
    { d with saved }.perform supply command =
      (d.perform supply command).map fun after => { after with saved } := by
  cases command with
  | begin | commit | rollback => cases other
  | insertFirst =>
    simp only [perform]
    split <;> rfl
  | _ => rfl

theorem run_withSaved (supply : Supply) {command : Command} (other : isControl command = false)
    {contents : Contents} (last : (d.run supply command).2.saved = some contents)
    (saved : Option Contents) : { d with saved }.run supply command =
      ((d.run supply command).1, { (d.run supply command).2 with saved }) := by
  have checked : { d with saved }.check command = d.check command := by cases command <;> rfl
  unfold run at last ⊢
  rw [checked, perform_withSaved saved supply other]
  split
  · rfl
  · next compiles =>
    rw [compiles] at last
    cases performed : d.perform supply command with
    | error err =>
      rw [performed] at last
      -- The one failure that tells a transaction from none ends the transaction.
      cases command with
      | insertFirst => cases last
      | _ => rfl
    | ok after => cases command <;> rfl

theorem begin_foreign {system : DatabaseSystem} {opts : TxOptions} {texts : List String}
    (begins : opts.beginStatements system = .ok texts) (other : texts ≠ ["BEGIN"]) :
    ∃ text rest, texts = text :: rest ∧
      ∀ d : Tables, ∃ err, Engine.execute d text = (.error err, d) := by
  obtain ⟨isolation, readOnly⟩ := opts
  cases system with
  | postgres | mysql =>
    cases begins
    cases isolation <;> cases readOnly <;>
      first
        | exact absurd rfl other
        | exact ⟨_, _, rfl, fun d => ⟨_, rfl⟩⟩
  | sqlite | unknown =>
    have plain : texts = ["BEGIN"] := by
      cases isolation <;> cases readOnly <;> cases begins <;> rfl
    exact absurd plain other

def transactions : Transactions Tables (Contents × Nat × Nat) Contents where
  session := session
  contents := Prod.fst
  saved := Tables.saved
  begins statement := Command.ofText statement = .begin
  compile_session {d d'} statement same := by
    rw [eq_withSaved same]
    change (d.check _).map _ = ({ d with saved := d'.saved }.check _).map _
    cases Command.ofText statement <;> rfl
  perform_open {d c} statement m supply opened := by
    change (d.run supply (Command.ofText statement)).2.saved = _ ∨
      (d.run supply (Command.ofText statement)).2.saved = _
    by_cases begins : Command.ofText statement = .begin
    · rw [begins, run_begin_of_saved supply opened]
      exact .inl opened
    · rw [← opened]
      exact saved_run supply begins
  perform_closed {d statement} m supply other closed := by
    have kept := saved_run (d := d) supply other
    rw [closed, or_self] at kept
    exact kept
  begin_closed {d} closed := by
    obtain ⟨contents, saved, id, changes⟩ := d
    cases closed
    exact ⟨⟨_, rfl⟩, rfl, rfl⟩
  begin_open {d c} opened := by
    obtain ⟨contents, saved, id, changes⟩ := d
    cases opened
    exact ⟨_, rfl⟩
  begin_foreign := begin_foreign
  commit_open {d c} opened := by
    obtain ⟨contents, saved, id, changes⟩ := d
    cases opened
    exact .inl ⟨⟨_, rfl⟩, rfl, rfl⟩
  rollback_open {d c} opened := by
    obtain ⟨contents, saved, id, changes⟩ := d
    cases opened
    exact ⟨⟨_, rfl⟩, rfl, rfl⟩

theorem indifferent {statement : String} (other : isControl (Command.ofText statement) = false) :
    transactions.Indifferent statement := by
  intro d d' c m supply same opened closed last
  rw [eq_withSaved same]
  change (d.run supply _).1 = ({ d with saved := d'.saved }.run supply _).1 ∧
    session (d.run supply _).2 = session ({ d with saved := d'.saved }.run supply _).2
  rw [run_withSaved supply other last d'.saved]
  exact ⟨rfl, rfl⟩

section

variable {text : String} (single : Command.statements text = [text])
  (other : isControl (Command.ofText text) = false)
include single other

end

end Tables
end Embedded

namespace Pool

open Embedded

variable {δ Session Contents : Type} [Engine δ]

section

variable (T : Transactions δ Session Contents) (part : {α : Type} → Call (Databases δ) α → Call σ α)
  (id : BaseId) (system : DatabaseSystem) (n : Nat) (view : σ → Databases δ)

/-- The transaction of connection `n` is still open after each of the turns. -/
def StaysOpen (p : Pool σ) (turns : List (Turn σ)) : Prop :=
  ∀ earlier d, earlier <+: turns → (view (p.run earlier).world.base)[n]? = some (some d) →
    T.saved d.inside ≠ none

end

variable {T : Transactions δ Session Contents}
  {part : {α : Type} → Call (Databases δ) α → Call σ α} {id : BaseId} {system : DatabaseSystem}
  {n : Nat} {view : σ → Databases δ} {p : Pool σ} {d : Cached δ}

/-- A transaction that is open after each turn is so before each job, and it is the same one. -/
theorem Does.holds (within : Within part view) {turns : List (Turn σ)} {log : List (Job × Outcome)}
    (does : Does part id system n view p turns log) {contents : Contents}
    (there : (view p.world.base)[n]? = some (some d)) (opened : T.saved d.inside = some contents)
    (stay : ∀ entry ∈ log, entry.1.StaysIn T system) (stays : StaysOpen T n view p turns) :
    T.Holds system contents (log.map Prod.fst) d := by
  induction does generalizing d with
  | nil p => exact .nil opened
  | @aside p turn turns log keeps rest ih =>
    exact ih (keeps.trans there) opened stay fun earlier d prior =>
      stays (turn :: earlier) d (List.cons_prefix_cons.mpr ⟨rfl, prior⟩)
  | @call p j t site call job o turns log held handle asked answered rest ih =>
    obtain ⟨first, later⟩ := List.forall_mem_cons.mp stay
    have now : (view (p.step (.call j call)).world.base)[n]? =
        some (some (job.run system d).2) := by
      rw [step_call held]
      exact handle.database_of_open within asked there
    have still := stays [.call j call] _ (List.cons_prefix_cons.mpr ⟨rfl, List.nil_prefix⟩) now
    have kept := (T.saved_job opened first).resolve_right still
    refine .cons opened (ih now kept later fun earlier d prior => ?_)
    exact stays (.call j call :: earlier) d (List.cons_prefix_cons.mpr ⟨rfl, prior⟩)

end Pool
end DriverTelemetry
