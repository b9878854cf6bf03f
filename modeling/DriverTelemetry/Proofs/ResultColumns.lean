import DriverTelemetry.Proofs.Columns
import DriverTelemetry.Proofs.Memory
import DriverTelemetry.Session.Bench

/-!
# The columns of a result

The columns of a result are told by its first row, and where there is no row by preparing the text
once more. For a text of one statement both are what preparing it before the query would have told,
in any state that a connection can get into. The second preparing is answered from memory, so the
text is run once and leaves the database as a single run does. A text of several statements tells of
all of them together when it is prepared, but its first row tells of its own statement.
-/
namespace DriverTelemetry

namespace Embedded

namespace Engine

variable {δ : Type} [Engine δ]

variable (δ) in
/-- The rows of a statement have a value for each column that compiling it told. -/
def FillsColumns : Prop :=
  ∀ {past d : δ} {statement m supply answer}, compile past statement = .ok m →
    (perform d statement m supply).1 = .ok answer → ∀ row ∈ answer.rows,
      row.length = m.columns.length

theorem exists_answer_of_single {d : δ} {statement : String} {told : List Prepared}
    {supply : Supply} {fetched : Fetched}
    (ran : (runAll [statement] told supply d).answer = .ok fetched) :
    ∃ m answer, tell d statement told.head? = .ok m ∧
      (perform d statement m supply).1 = .ok answer ∧
      fetched.rows = answer.rows.map (fun row => (m.columns, row)) ∧
      (runAll [statement] told supply d).told = [m] := by
  unfold runAll at ran ⊢
  split at ran
  · cases ran
  · next m tells =>
    split at ran
    · cases ran
    · next answer after performed =>
      cases ran
      exact ⟨m, answer, tells, by rw [performed], List.append_nil _, rfl⟩

end Engine

namespace Tables

theorem compile_eq_ok {d : Tables} {statement : String} {m : Prepared}
    (compiles : Engine.compile d statement = .ok m) : m = (Command.ofText statement).prepared := by
  obtain ⟨_, -, rfl⟩ := Result.of_map_eq_ok compiles
  rfl

theorem length_of_mem_selected {d : Tables} {supply : Supply} {command : Command}
    {row : List Wire} (member : row ∈ d.selected supply command) :
    row.length = command.columns.length := by
  cases command with
  | selectAll | selectBar =>
    obtain ⟨stored, -, rfl⟩ := List.mem_map.mp member
    rfl
  | selectCount | selectLastId =>
    rw [List.mem_singleton.mp member]
    rfl
  | echo names =>
    rw [List.mem_singleton.mp member]
    simp [Command.columns]
  | _ => cases member

theorem fillsColumns : Engine.FillsColumns Tables := by
  intro past d statement m supply answer compiles performed row member
  obtain rfl := compile_eq_ok compiles
  change (d.run supply (Command.ofText statement)).1 = .ok answer at performed
  unfold run at performed
  split at performed
  · cases performed
  · split at performed
    · cases performed
    · cases performed
      exact length_of_mem_selected member

end Tables

namespace Cached

variable {δ : Type} [Engine δ] {d : Cached δ} {text : String}

/-- Whatever is remembered of a text was told by compiling its statements. -/
def Recollects (d : Cached δ) : Prop :=
  ∀ entry ∈ d.memory, Engine.Told δ (Engine.statements (δ := δ) entry.1) entry.2

theorem recollects_empty : (empty : Cached δ).Recollects := nofun

namespace Recollects

theorem told (h : d.Recollects) (text : String) :
    Engine.Told δ (Engine.statements (δ := δ) text) (d.recalled text) := by
  unfold recalled
  cases found : d.memory.lookup text with
  | none => exact .nil _
  | some told =>
    obtain ⟨before, after, split, -⟩ := List.lookup_eq_some_iff.mp found
    exact h (text, told) (by simp [split])

theorem remember (h : d.Recollects) {told : List Prepared}
    (new : Engine.Told δ (Engine.statements (δ := δ) text) told) :
    (d.remember text told).Recollects := by
  intro entry member
  rcases List.mem_cons.mp (List.mem_of_mem_take member) with rfl | old
  · exact new
  · exact h entry (List.mem_of_mem_filter old)

theorem job (h : d.Recollects) (system : DatabaseSystem) (job : Job) :
    (job.run system d).2.Recollects :=
  Job.keeps (P := Recollects) h (fun text _ _ h => h.remember (h.told text).compileAll)
    (fun text _ _ _ h => h.remember (h.told text).runAll) fun _ _ h => h

end Recollects

/-- A text that was run without failing prepares after it from memory. -/
theorem prepare_of_run {args : List Wire} {fetched : Fetched}
    (ran : (d.run text args).1 = .ok fetched) :
    let after := (d.run text args).2
    after.prepare text = (.ok (.ofAll (after.recalled text)), after) := by
  intro after
  have complete : (after.recalled text).length = (Engine.statements (δ := δ) text).length := by
    simp only [after, run, recalled_with_inside, recalled_remember_self]
    exact Engine.length_told_runAll ran
  have same : after.remember text (after.recalled text) = after := by
    simp only [after, run, recalled_with_inside, recalled_remember_self]
    exact congrArg (Cached.mk _) (congrArg Cached.memory (remember_remember (d := d)))
  simp only [prepare, Engine.compileAll_of_complete complete, same]
  rfl

theorem snd_query_of_ok {args : List Value} {fetched : Fetched}
    (ran : (d.run text (Wire.bind args)).1 = .ok fetched) :
    (d.query text args).2 = (d.run text (Wire.bind args)).2 := by
  rw [snd_query, ran]
  change ((d.run text (Wire.bind args)).2.columns text fetched).2 = _
  rw [snd_columns]
  split
  · rw [prepare_of_run ran]
  · rfl

theorem eq_of_decodeRows {rows : List (List Wire)} {values : List (List Value)}
    (read : decodeRows rows = .ok values) : values = rows.map (List.map Wire.content) := by
  rw [Wire.decodeRows_eq] at read
  split at read
  · exact (Except.ok.inj read).symm
  · cases read

theorem exists_run_of_query {args : List Value} {r : Rows}
    (answered : (d.query text args).1 = .ok r) :
    ∃ fetched names values, (d.run text (Wire.bind args)).1 = .ok fetched ∧
      ((d.run text (Wire.bind args)).2.columns text fetched).1 = .ok names ∧
      decodeRows (fetched.rows.map Prod.snd) = .ok values ∧ r = .ofList names values := by
  rw [fst_query] at answered
  cases ran : (d.run text (Wire.bind args)).1 with
  | error err =>
    rw [ran] at answered
    cases answered
  | ok fetched =>
    rw [ran] at answered
    cases named : ((d.run text (Wire.bind args)).2.columns text fetched).1 with
    | error err => simp [Except.bind, named] at answered
    | ok names =>
      simp only [Except.bind, named] at answered
      obtain ⟨values, read, rfl⟩ := Result.of_map_eq_ok answered
      exact ⟨fetched, names, values, rfl, named, read, rfl⟩

/-- The columns of an empty result are those that preparing the text tells afterwards. -/
theorem columns_of_empty {args : List Value} {r : Rows} (answered : (d.query text args).1 = .ok r)
    (empty : r.rest = []) :
    r.columns = (Prepared.ofAll ((d.run text (Wire.bind args)).2.recalled text)).columns := by
  obtain ⟨fetched, names, values, ran, named, read, rfl⟩ := exists_run_of_query answered
  have none : fetched.rows = [] := by
    change values = [] at empty
    rw [eq_of_decodeRows read, List.map_map] at empty
    exact List.map_eq_nil_iff.mp empty
  simp only [columns, none, prepare_of_run ran] at named
  exact (Except.ok.inj named).symm

theorem recalled_run (args : List Wire) : (d.run text args).2.recalled text =
    (Engine.runAll (Engine.statements (δ := δ) text) (d.recalled text) ⟨args, 0⟩ d.inside).told :=
  recalled_remember_self

/-- A text without any statement has no rows and no columns. -/
theorem query_of_none (statements : Engine.statements (δ := δ) text = []) {args : List Value}
    {r : Rows} (answered : (d.query text args).1 = .ok r) :
    (d.prepare text).1 = .ok (.ofAll []) ∧
      (d.run text (Wire.bind args)).2.recalled text = [] ∧
      r.columns = [] ∧ r.rest = [] := by
  have told : (d.run text (Wire.bind args)).2.recalled text = [] := by
    rw [recalled_run, statements]
    rfl
  have empty : r.rest = [] := by
    obtain ⟨fetched, names, values, ran, -, read, rfl⟩ := exists_run_of_query answered
    simp only [run, statements, Engine.runAll] at ran
    cases ran
    exact eq_of_decodeRows read
  have columns := columns_of_empty answered empty
  rw [told] at columns
  refine ⟨?_, told, columns, empty⟩
  simp only [prepare, statements, Engine.compileAll]
  rfl

/-- For a single statement, preparing it before the query tells the columns of the result, and how
many values are in each row. -/
theorem Recollects.query_of_one (fills : Engine.FillsColumns δ) (h : d.Recollects)
    {statement : String} (statements : Engine.statements (δ := δ) text = [statement])
    {args : List Value} {r : Rows} (answered : (d.query text args).1 = .ok r) :
    ∃ m, (d.prepare text).1 = .ok m ∧ (d.run text (Wire.bind args)).2.recalled text = [m] ∧
      r.columns = m.columns ∧ ∀ row ∈ r.rest, row.length = m.columns.length := by
  obtain ⟨fetched, names, values, ran, named, read, rfl⟩ := exists_run_of_query answered
  have whole : (Engine.runAll [statement] (d.recalled text) ⟨Wire.bind args, 0⟩ d.inside).answer =
      .ok fetched := by
    rw [← statements]
    exact ran
  obtain ⟨m, answer, tells, performed, rows, told⟩ := Engine.exists_answer_of_single whole
  have recalled : (d.run text (Wire.bind args)).2.recalled text = [m] := by
    rw [recalled_run, statements, told]
  have before := h.told text
  rw [statements] at before
  obtain ⟨past, compiled⟩ := before.exists_compile tells
  refine ⟨m, by rw [fst_prepare_of_single statements, tells], recalled, ?_, ?_⟩
  · cases first : fetched.rows with
    | nil =>
      have empty : values = [] := by
        rw [eq_of_decodeRows read, first]
        rfl
      have columns := columns_of_empty answered empty
      rwa [recalled, Prepared.ofAll_singleton] at columns
    | cons row others =>
      simp only [columns, first] at named
      obtain ⟨wires, -, rfl⟩ := List.mem_map.mp (rows ▸ first ▸ List.mem_cons_self)
      exact (Except.ok.inj named).symm
  · intro row member
    change row ∈ values at member
    rw [eq_of_decodeRows read, rows, List.map_map, List.map_map] at member
    obtain ⟨wires, there, rfl⟩ := List.mem_map.mp member
    rw [Function.comp_apply, Function.comp_apply, List.length_map]
    exact fills compiled performed wires there

theorem Recollects.query_of_single (fills : Engine.FillsColumns δ) (h : d.Recollects)
    (short : (Engine.statements (δ := δ) text).length ≤ 1) {args : List Value} {r : Rows}
    (answered : (d.query text args).1 = .ok r) :
    ∃ m, (d.prepare text).1 = .ok m ∧
      Prepared.ofAll ((d.run text (Wire.bind args)).2.recalled text) = m ∧
      r.columns = m.columns ∧ ∀ row ∈ r.rest, row.length = m.columns.length := by
  cases statements : Engine.statements (δ := δ) text with
  | nil =>
    obtain ⟨prepared, told, columns, empty⟩ := query_of_none statements answered
    rw [told, columns, empty]
    exact ⟨.ofAll [], prepared, rfl, rfl, List.forall_mem_nil _⟩
  | cons statement rest =>
    obtain rfl : rest = [] := by simpa [statements] using short
    obtain ⟨m, prepared, told, columns, widths⟩ := h.query_of_one fills statements answered
    rw [told, Prepared.ofAll_singleton]
    exact ⟨m, prepared, rfl, columns, widths⟩

end Cached

section

variable {σ δ : Type} [Engine δ] {part : {α : Type} → Call (Databases δ) α → Call σ α} {id : BaseId}
  {system : DatabaseSystem} {n : Nat} {view : σ → Databases δ} {site : Site} {t : Target σ}

/-- A database that is open after a job was so before it, or the job was done on it. -/
theorem Job.open_of_on {job : Job} {store : Databases δ} {k : Nat} {d : Cached δ}
    (opened : (job.on system n store).2[k]? = some (some d)) :
    store[k]? = some (some d) ∨
      ∃ before, store[k]? = some (some before) ∧ d = (job.run system before).2 := by
  by_cases there : ∃ before, store[n]? = some (some before)
  · obtain ⟨before, there⟩ := there
    rw [Job.on_of_open there] at opened
    by_cases same : k = n
    · subst same
      rw [List.getElem?_set_self (List.getElem?_eq_some_iff.mp there).1] at opened
      exact .inr ⟨before, there, (Option.some.inj (Option.some.inj opened)).symm⟩
    · rw [List.getElem?_set_ne (Ne.symm same)] at opened
      exact .inl opened
  · rw [Job.on_of_not_open (not_exists.mp there)] at opened
    exact .inl opened

theorem At.perform_close (within : Within part view) (handle : At part id system n site t)
    (w : World σ) : view (t.perform .close w).2.base = view w.base ∨
      view (t.perform .close w).2.base = (view w.base).set n none := by
  induction handle generalizing w with
  | conn => exact .inr (within.left (Store.close n) w.base)
  | stmt text prepared => exact .inl rfl
  | tx => exact .inl rfl
  | observed x inner ih =>
    have treated := treatment_eq inner.handleOf .close
    split at treated
    · rw [Wrapper.perform_eq, treated]
      exact .inl rfl
    · rw [if_neg nofun] at treated
      obtain ⟨a, account, made⟩ := exists_account treated w
      have base : a.asked.base = w.base := by rw [account.asked_eq]
      have inside := account.inside
      rw [made] at inside
      have closed := ih a.asked
      rw [show x.inner.perform .close a.asked = _ from inside, base] at closed
      rw [account.outcome]
      exact closed

/-- What becomes of the open databases in a call: each is as before, or a job was done on it. -/
theorem At.exists_job_of_open (within : Within part view) (handle : At part id system n site t)
    (call : BaseCall) (w : World σ) {k : Nat} {d : Cached δ}
    (opened : (view (t.perform call w).2.base)[k]? = some (some d)) :
    (view w.base)[k]? = some (some d) ∨
      ∃ (job : Job) (before : Cached δ), (view w.base)[k]? = some (some before) ∧
        d = (job.run system before).2 := by
  have served := handle.serves within call w
  cases asked : site.job? system call with
  | none =>
    by_cases close : call = .close
    · subst close
      rcases handle.perform_close within w with still | closed
      · exact .inl (still ▸ opened)
      · rw [closed, List.getElem?_set] at opened
        split at opened
        · split at opened <;> cases opened
        · exact .inl opened
    · exact .inl ((served.idle asked close).2 ▸ opened)
  | some comes =>
    cases comes with
    | error err => exact .inl ((served.refused err asked).2 ▸ opened)
    | ok job =>
      rw [(served.answered job asked).2] at opened
      rcases Job.open_of_on opened with old | ⟨before, there, done⟩
      · exact .inl old
      · exact .inr ⟨job, before, there, done⟩

theorem view_connect (within : Within part view) (id : BaseId) (system : DatabaseSystem)
    (source : Source) (s : σ) :
    view ((connect part id system source).run s).2 = view s ∨
      view ((connect part id system source).run s).2 = view s ++ [some Cached.empty] := by
  unfold connect
  cases source.check with
  | error err => exact .inl rfl
  | ok url =>
    have added := Call.run_map (part Store.connect) (Embedded.conn part id system) s
    exact .inr ((congrArg (fun done => view done.2) added).trans (within.left Store.connect s))

theorem HandleOf.exists_at (handle : HandleOf part id system n t) :
    ∃ site, At part id system n site t := by
  induction handle with
  | conn => exact ⟨.conn, .conn⟩
  | stmt text prepared => exact ⟨.stmt text, .stmt text prepared⟩
  | tx => exact ⟨.tx, .tx⟩
  | observed x inner ih =>
    obtain ⟨site, handle⟩ := ih
    exact ⟨site, .observed x handle⟩

end

end Embedded

namespace Pool

open Embedded

variable {σ δ : Type} [Engine δ] {part : {α : Type} → Call (Databases δ) α → Call σ α}
  {view : σ → Databases δ} {p : Pool σ}

/-- What can happen to embedded connections: calls on their handles, new connections, which begin
with an empty database, and whatever leaves the open databases as they are. -/
def Turn.Admits (part : {α : Type} → Call (Databases δ) α → Call σ α) (view : σ → Databases δ) :
    Turn σ → Prop
  | .elsewhere change => ∀ (w : World σ) (k : Nat) (d : Cached δ),
    (view (change w).base)[k]? = some (some d) →
      (view w.base)[k]? = some (some d) ∨ d = Cached.empty
  | .connected c => ∃ id system n, HandleOf part id system n (.conn c)
  | .call _ _ => True

theorem Turn.admits_connect (within : Within part view) (id : BaseId) (system : DatabaseSystem)
    (source : Source) :
    (Turn.elsewhere fun w : World σ =>
      { w with base := ((connect part id system source).run w.base).2 }).Admits part view := by
  intro w k d opened
  rcases view_connect within id system source w.base with same | added
  · exact .inl (same ▸ opened)
  · rw [show view _ = _ from added, List.getElem?_append] at opened
    split at opened
    · exact .inl opened
    · exact .inr (Option.some.inj (List.mem_singleton.mp (List.mem_of_getElem? opened)))

/-- A pool of handles of embedded connections, which remember nothing but what they were told. -/
structure Recollects (part : {α : Type} → Call (Databases δ) α → Call σ α)
    (view : σ → Databases δ) (p : Pool σ) : Prop where
  handles : ∀ t ∈ p.targets, ∃ id system n, HandleOf part id system n t
  databases : ∀ (k : Nat) (d : Cached δ),
    (view p.world.base)[k]? = some (some d) → d.Recollects

theorem recollects_fresh {w : World σ}
    (new : ∀ d, some d ∈ view w.base → d = Cached.empty) : (fresh w).Recollects part view where
  handles := nofun
  databases k d opened := by
    rw [new d (List.mem_of_getElem? opened)]
    exact Cached.recollects_empty

theorem Recollects.step (within : Within part view) (h : p.Recollects part view) {turn : Turn σ}
    (admits : turn.Admits part view) : (p.step turn).Recollects part view := by
  cases turn with
  | elsewhere change =>
    refine ⟨h.handles, fun k d opened => ?_⟩
    rcases admits p.world k d opened with old | rfl
    · exact h.databases k d old
    · exact Cached.recollects_empty
  | connected c =>
    refine ⟨fun t member => ?_, h.databases⟩
    rcases List.mem_append.mp member with old | new
    · exact h.handles t old
    · rw [List.mem_singleton.mp new]
      exact admits
  | call j call =>
    cases held : p.targets[j]? with
    | none => simpa [Pool.step, held] using h
    | some s =>
      obtain ⟨id, system, m, handle⟩ := h.handles s (List.mem_of_getElem? held)
      obtain ⟨site, made⟩ := handle.exists_at
      have kept := handle.keeps within call p.world
      rw [step_call held]
      refine ⟨fun t member => ?_, fun k d opened => ?_⟩
      · rcases mem_perform member with old | rfl | created
        · exact h.handles t old
        · exact ⟨id, system, m, kept.handle⟩
        · exact ⟨id, system, m, kept.created t created⟩
      · rcases made.exists_job_of_open within call p.world opened with
          old | ⟨job, before, there, rfl⟩
        · exact h.databases k d old
        · exact (h.databases k before there).job system job

theorem Recollects.run (within : Within part view) (h : p.Recollects part view)
    {turns : List (Turn σ)} (admits : ∀ turn ∈ turns, turn.Admits part view) :
    (p.run turns).Recollects part view := by
  induction turns generalizing p with
  | nil => exact h
  | cons turn turns ih =>
    obtain ⟨first, later⟩ := List.forall_mem_cons.mp admits
    exact ih (h.step within first) later

/-- In whichever state embedded connections are, a query that succeeds, by whichever route, leaves
the databases as running its text once does, and the connection goes on to tell from memory the
columns that an empty result of it has. For a text of one statement these are the columns that
preparing it before would have told, with or without rows, and there are as many values in each
row. -/
theorem run_resultColumns (fills : Engine.FillsColumns δ) (within : Within part view) {w : World σ}
    (new : ∀ d, some d ∈ view w.base → d = Cached.empty) {turns : List (Turn σ)}
    (admits : ∀ turn ∈ turns, turn.Admits part view) {i n : Nat} {t : Target σ} {id : BaseId}
    {system : DatabaseSystem} {site : Site} (held : ((fresh w).run turns).targets[i]? = some t)
    (handle : At part id system n site t) {call : BaseCall} {text : String} {args : List Value}
    (asks : site.job? system call = some (.ok (.query text args))) {r : Rows}
    (answered : (t.perform call ((fresh w).run turns).world).1.1 = .rows (.ok r)) :
    let p := (fresh w).run turns
    ∃ d e m, (view p.world.base)[n]? = some (some d) ∧
      view (p.step (.call i call)).world.base = (view p.world.base).set n (some e) ∧
      e = (d.run text (Wire.bind args)).2 ∧
      e.inside = (Engine.runAll (Engine.statements (δ := δ) text) (d.recalled text)
        ⟨Wire.bind args, 0⟩ d.inside).left ∧
      e.prepare text = (.ok m, e) ∧ (r.rest = [] → r.columns = m.columns) ∧
      ((Engine.statements (δ := δ) text).length ≤ 1 → (d.prepare text).1 = .ok m ∧
        r.columns = m.columns ∧ ∀ row ∈ r.rest, row.length = m.columns.length) := by
  intro p
  have recollects : p.Recollects part view := (recollects_fresh new).run within admits
  have left : view (p.step (.call i call)).world.base = view (t.perform call p.world).2.base := by
    rw [step_call held]
    rfl
  by_cases opened : ∃ d, (view p.world.base)[n]? = some (some d)
  · obtain ⟨d, opened⟩ := opened
    obtain ⟨told, after⟩ := handle.perform_of_open within asks opened
    rw [answered] at told
    have query : (d.query text args).1 = .ok r :=
      (Outcome.rows.inj (Option.some.inj told)).symm
    obtain ⟨fetched, -, -, ran, -⟩ := Cached.exists_run_of_query query
    refine ⟨d, _, _, opened, ?_, rfl, rfl, Cached.prepare_of_run ran,
      Cached.columns_of_empty query, fun short => ?_⟩
    · rw [left, after]
      exact congrArg (fun e => (view p.world.base).set n (some e)) (Cached.snd_query_of_ok ran)
    · obtain ⟨m, prepared, rfl, columns, widths⟩ :=
        (recollects.databases n d opened).query_of_single fills short query
      exact ⟨prepared, columns, widths⟩
  -- A closed connection has no rows to answer.
  · have told := ((handle.serves within call p.world).answered _ asks).1
    rw [answered, Job.on_of_not_open (not_exists.mp opened)] at told
    cases told

/-- The columns of a select from a table without rows, through an observer. -/
theorem run_resultColumns_selectBar :
    let connecting (w : World Bench) : World Bench := { w with base :=
      ((connect Bench.onStore 0 .sqlite ⟨"sqlite", ":memory:".toList⟩).run w.base).2 }
    let base : Conn Bench := .base (Embedded.conn Bench.onStore 0 .sqlite 0)
    let c : Conn Bench := .observed ⟨.sqlite, [.record "hook"]⟩ base
    let w : World Bench := ⟨Bench.empty, .empty, .empty⟩
    let turns : List (Turn Bench) := [.elsewhere connecting, .connected c,
      .call 0 (.exec "CREATE TABLE foo (id INTEGER PRIMARY KEY, bar)" [])]
    let p := (fresh w).run turns
    let query : BaseCall := .queryContext .empty "SELECT bar FROM foo" []
    (Target.perform query (.conn c) p.world).1.1 = .rows (.ok (.ofList ["bar"] [])) ∧
      ∃ d e : Database, p.world.base.store[0]? = some (some d) ∧
        (p.step (.call 0 query)).world.base.store = [some e] ∧ e.inside = d.inside ∧
        (d.prepare "SELECT bar FROM foo").1.map Prepared.columns = .ok ["bar"] ∧
        (e.prepare "SELECT bar FROM foo").1.map Prepared.columns = .ok ["bar"] := by
  intro connecting base c w turns p query
  have within : Within Bench.onStore Bench.store := ⟨fun _ _ => rfl, fun _ _ => rfl⟩
  have connection : At Bench.onStore 0 .sqlite 0 .conn (.conn c) :=
    .observed (.conn ⟨.sqlite, [.record "hook"]⟩ base) .conn
  have new : ∀ d, some d ∈ Bench.store w.base → d = Database.empty := nofun
  have admits : ∀ turn ∈ turns, turn.Admits Bench.onStore Bench.store := by
    simp only [turns, List.forall_mem_cons]
    exact ⟨Turn.admits_connect within 0 .sqlite _, ⟨0, .sqlite, 0, connection.handleOf⟩, trivial,
      nofun⟩
  have asks : Site.conn.job? .sqlite query = some (.ok (.query "SELECT bar FROM foo" [])) := rfl
  have answered : (Target.perform query (.conn c) p.world).1.1 =
      .rows (.ok (.ofList ["bar"] [])) := rfl
  obtain ⟨d, e, m, opened, left, -, inside, again, -, single⟩ :=
    run_resultColumns Tables.fillsColumns within new admits (i := 0) rfl connection asks answered
  obtain ⟨told, columns, -⟩ := single (Nat.le_refl 1)
  refine ⟨answered, d, e, opened, left, ?_, ?_, ?_⟩
  · cases opened
    exact inside
  · rw [told]
    exact congrArg Except.ok columns.symm
  · rw [again]
    exact congrArg Except.ok columns.symm

/-- The columns of a text of several statements are up to the rows: without one they are those of
the first statement, and the first row bears those of the second. -/
theorem columns_of_two_statements :
    let text := "SELECT id, bar FROM foo WHERE 1 = 0; SELECT bar FROM foo"
    let base : Conn Bench := .base (Embedded.conn Bench.onStore 0 .sqlite 0)
    let p := (fresh ⟨⟨[], [some Database.empty]⟩, .empty, .empty⟩).run [.connected base,
      .call 0 (.exec "CREATE TABLE foo (id INTEGER PRIMARY KEY, bar)" [])]
    let answer (q : Pool Bench) :=
      Outcome.ofResponse? (Target.perform (.query text []) (.conn base) q.world).1.1
    answer p = some (.rows (.ok (.ofList ["id", "bar"] []))) ∧
      answer (p.run [.call 0 (.exec "INSERT INTO foo (bar) VALUES (?)" [.text "a"])]) =
        some (.rows (.ok (.ofList ["bar"] [[.text "a"]]))) :=
  ⟨rfl, rfl⟩

end Pool
end DriverTelemetry
