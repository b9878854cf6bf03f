import DriverTelemetry.Driver.Observation

/-!
# Performing a call is carrying out its treatment

The methods of observed handles are written one by one. Each of them does what the tables say of its
call, so that everything about observed calls follows from the tables and from one report.
-/
namespace DriverTelemetry.Wrapper

variable {σ : Type}

theorem carryOut_exec (config : Configuration) (inner : Conn σ) (call : BaseCall) (ctx : Context)
    (text : String) (args : List Value) :
    (conn config inner).carryOut call ctx
        (if inner.offers .execer then .reported (.exec text args)
          else .silent (.summary (.error .skip))) =
      (do
        let r ← Conn.execVia config inner.exec? ctx text args
        return (.summary r, .conn (.observed config inner))) := by
  unfold Conn.offers Conn.execVia
  cases h : inner.exec? with
  | none => rfl
  | some m =>
    simp only [Option.isSome_some, if_true, carryOut, report, Wrapper.inner, Target.perform,
      BaseCall.under, Conn.perform, Response.ofMethod, h]
    rfl

theorem carryOut_query (config : Configuration) (inner : Conn σ) (call : BaseCall) (ctx : Context)
    (text : String) (args : List Value) :
    (conn config inner).carryOut call ctx
        (if inner.offers .queryer then .reported (.query text args)
          else .silent (.rows (.error .skip))) =
      (do
        let r ← Conn.queryVia config inner.query? ctx text args
        return (.rows r, .conn (.observed config inner))) := by
  unfold Conn.offers Conn.queryVia
  cases h : inner.query? with
  | none => rfl
  | some m =>
    simp only [Option.isSome_some, if_true, carryOut, report, Wrapper.inner, Target.perform,
      BaseCall.under, Conn.perform, Response.ofMethod, h]
    rfl

private theorem ne_stmtClose {call : BaseCall} {c : Capability}
    (needed : call.capability? = some c) : call ≠ .stmtClose := by
  rintro rfl
  cases needed

private theorem eq_none {α : Type} {o : Option α} (h : o.isSome = false) : o = none :=
  Option.isNone_iff_eq_none.mp (Option.isSome_eq_false_iff.mp h)

private theorem some_map_error {α β : Type} {r : Result α} {f : α → β} {err : DriverError}
    (h : r = .error err) : some (r.map f) = some (.error err) := by
  rw [h]
  rfl

private theorem some_map_ok {α β : Type} {r : Result α} {f : α → β} {a : α} (h : r = .ok a) :
    some (r.map f) = some (.ok (f a)) := by
  rw [h]
  rfl

section

variable (x : Wrapper σ) (call : BaseCall) {c : Capability} (taken : x.inner.takes call = true)
  (needed : call.capability? = some c)

include needed taken

theorem treatment_offered (h : x.inner.offers c = true) : x.treatment call = .reported call := by
  simp [treatment, Target.accepts_of_capability taken needed, taken, ne_stmtClose needed, h]

variable (absent : x.inner.offers c = false)

include absent

theorem treatment_idle (h : call.legacy? = none) : x.treatment call = .silent call.idle := by
  simp [treatment, Target.accepts_of_capability taken needed, taken, ne_stmtClose needed, absent, h]

theorem treatment_refused {err : DriverError} (h : call.legacy? = some (.error err)) :
    x.treatment call = .silent (call.refusal err) := by
  simp [treatment, Target.accepts_of_capability taken needed, taken, ne_stmtClose needed, absent, h]

theorem treatment_legacy {legacy : BaseCall} (h : call.legacy? = some (.ok legacy)) :
    x.treatment call =
      if x.inner.accepts legacy then .reported legacy else .silent call.idle := by
  simp [treatment, Target.accepts_of_capability taken needed, taken, ne_stmtClose needed, absent, h]

end

theorem treatment_silent {x : Wrapper σ} {call : BaseCall} {r : Response σ}
    (h : x.treatment call = .silent r) :
    r = .absent ∨ r = call.idle ∨ ∃ err, r = call.refusal err := by
  unfold treatment at h
  split at h
  · cases h
    exact .inl rfl
  · split at h
    · cases h
    · split at h
      · cases h
      · split at h
        · cases h
          exact .inr (.inl rfl)
        · next err _ =>
          cases h
          exact .inr (.inr ⟨err, rfl⟩)
        · split at h
          · cases h
          · cases h
            exact .inr (.inl rfl)

/-- Only the closing of a statement is handed on without hooks. -/
theorem treatment_passed {x : Wrapper σ} {call : BaseCall} (h : x.treatment call = .passed) :
    call = .stmtClose := by
  unfold treatment at h
  repeat' split at h
  all_goals first | assumption | cases h

/-- A call is reported as it is, or in its legacy form. -/
theorem treatment_reported {x : Wrapper σ} {call made : BaseCall}
    (h : x.treatment call = .reported made) :
    (x.inner.accepts call = true ∧ made = call ∧ call ≠ .stmtClose) ∨
      (x.inner.accepts call = false ∧ call.legacy? = some (.ok made) ∧
        x.inner.accepts made = true) := by
  unfold treatment at h
  split at h
  · cases h
  · split at h
    · cases h
    · next closes =>
      split at h
      · next accepted =>
        cases h
        exact .inl ⟨accepted, rfl, closes⟩
      · next declined =>
        split at h
        · cases h
        · cases h
        · next legacy fits =>
          split at h
          · next accepted =>
            cases h
            exact .inr ⟨Bool.not_eq_true _ ▸ declined, fits, accepted⟩
          · cases h

theorem made_of_reported {x : Wrapper σ} {call made : BaseCall}
    (h : x.treatment call = .reported made) :
    if x.inner.accepts call then made = call else call.legacy? = some (.ok made) := by
  rcases treatment_reported h with ⟨accepted, same, -⟩ | ⟨declined, fits, -⟩
  · rw [if_pos accepted]
    exact same
  · rw [if_neg (by rw [declined]; decide)]
    exact fits

theorem takes_of_reported {x : Wrapper σ} {call made : BaseCall}
    (h : x.treatment call = .reported made) : x.inner.takes call = true := by
  unfold treatment at h
  split at h
  · cases h
  · next taken => exact Bool.not_eq_false _ ▸ taken

theorem legacy_of_absent {x : Wrapper σ} {call made : BaseCall} {c : Capability}
    (h : x.treatment call = .reported made) (needed : call.capability? = some c)
    (absent : x.inner.offers c = false) :
    call.legacy? = some (.ok made) ∧ x.inner.accepts made = true := by
  rcases treatment_reported h with ⟨accepted, -, -⟩ | ⟨-, fits, accepted⟩
  · have offered := Target.offers_of_accepts accepted needed
    rw [absent] at offered
    cases offered
  · exact ⟨fits, accepted⟩

theorem accepts_made {x : Wrapper σ} {call made : BaseCall} (h : x.treatment call = .reported made)
    (ctx : Context) : x.inner.accepts (made.under ctx) = true := by
  rw [Target.accepts_under]
  rcases treatment_reported h with ⟨accepted, rfl, -⟩ | ⟨-, -, accepted⟩
  · exact accepted
  · exact accepted

private theorem perform_conn_offered (config : Configuration) (inner : Conn σ) {call : BaseCall}
    {ctx : Context} {c : Capability} (taken : (Target.conn inner).takes call = true)
    (aware : call.context? = some ctx) (needed : call.capability? = some c)
    (offered : inner.offers c = true) (w : World σ) :
    (conn config inner).target.perform call w =
      (conn config inner).carryOut call ((conn config inner).entry call w.ambient)
        ((conn config inner).treatment call) w := by
  rw [treatment_offered (.conn config inner) call taken needed offered]
  cases call with
  | execContext _ text args | queryContext _ text args | prepareContext _ text | beginTx _ opts
  | ping _ | resetSession _ =>
    cases needed
    obtain ⟨m, h⟩ := Option.isSome_iff_exists.mp offered
    simp only [target, Target.perform, Conn.perform, Conn.execContext?, Conn.queryContext?,
      Conn.prepareContext?, Conn.beginTx?, Conn.ping?, Conn.resetSession?, Response.ofMethod,
      carryOut, report, Wrapper.inner, BaseCall.under, h]
    rfl
  | stmtExecContext _ args | stmtQueryContext _ args => cases taken
  | exec text args | query text args => cases aware
  | _ => cases needed

private theorem perform_stmt_offered (config : Configuration) (text : String) (carried : Context)
    (inner : Stmt σ) {call : BaseCall} {c : Capability}
    (taken : (Target.stmt inner).takes call = true) (needed : call.capability? = some c)
    (offered : inner.offers c = true) (w : World σ) :
    (stmt config text carried inner).target.perform call w =
      (stmt config text carried inner).carryOut call
        ((stmt config text carried inner).entry call w.ambient)
        ((stmt config text carried inner).treatment call) w := by
  rw [treatment_offered (.stmt config text carried inner) call taken needed offered]
  cases call with
  | stmtExecContext ctx args | stmtQueryContext ctx args =>
    cases needed
    obtain ⟨m, h⟩ := Option.isSome_iff_exists.mp offered
    simp only [target, Target.perform, Stmt.perform, Stmt.execContext?, Stmt.queryContext?,
      carryOut, report, Wrapper.inner, BaseCall.under, h]
    rfl
  | exec _ _ | execContext _ _ _ | query _ _ | queryContext _ _ _ | prepareContext _ _
  | beginTx _ _ | ping _ | resetSession _ => cases taken
  | _ => cases needed

/-- A call with a context is made inside where it is offered there, and in its legacy form where
that fits; the calls without one are made as they are. -/
theorem perform_conn (config : Configuration) (inner : Conn σ) (call : BaseCall) (w : World σ) :
    (conn config inner).target.perform call w =
      (conn config inner).carryOut call ((conn config inner).entry call w.ambient)
        ((conn config inner).treatment call) w := by
  cases call with
  | exec text args =>
    exact congrFun (carryOut_exec config inner (.exec text args) w.ambient text args).symm w
  | query text args =>
    exact congrFun (carryOut_query config inner (.query text args) w.ambient text args).symm w
  | execContext ctx text args =>
    cases offered : inner.offers .execerContext with
    | true => exact perform_conn_offered config inner rfl rfl rfl offered w
    | false =>
      have absent := eq_none offered
      simp only [target, Target.perform, Conn.perform, Conn.execContext?, Response.ofMethod, absent]
      cases fits : NamedValue.toValues args with
      | error err =>
        rw [treatment_refused (.conn config inner) (.execContext ctx text args) rfl rfl offered
          (some_map_error fits)]
        rfl
      | ok values =>
        rw [treatment_legacy (.conn config inner) (.execContext ctx text args) rfl rfl offered
          (some_map_ok fits)]
        exact congrFun (carryOut_exec config inner _ ctx text values).symm w
  | queryContext ctx text args =>
    cases offered : inner.offers .queryerContext with
    | true => exact perform_conn_offered config inner rfl rfl rfl offered w
    | false =>
      have absent := eq_none offered
      simp only [target, Target.perform, Conn.perform, Conn.queryContext?, Response.ofMethod,
        absent]
      cases fits : NamedValue.toValues args with
      | error err =>
        rw [treatment_refused (.conn config inner) (.queryContext ctx text args) rfl rfl offered
          (some_map_error fits)]
        rfl
      | ok values =>
        rw [treatment_legacy (.conn config inner) (.queryContext ctx text args) rfl rfl offered
          (some_map_ok fits)]
        exact congrFun (carryOut_query config inner _ ctx text values).symm w
  | prepareContext ctx text =>
    cases offered : inner.offers .prepareContext with
    | true => exact perform_conn_offered config inner rfl rfl rfl offered w
    | false =>
      have absent := eq_none offered
      simp only [target, Target.perform, Conn.perform, Conn.prepareContext?, Response.ofMethod,
        absent]
      rw [treatment_legacy (.conn config inner) (.prepareContext ctx text) rfl rfl offered rfl]
      rfl
  | beginTx ctx opts =>
    cases offered : inner.offers .beginTx with
    | true => exact perform_conn_offered config inner rfl rfl rfl offered w
    | false =>
      have absent := eq_none offered
      simp only [target, Target.perform, Conn.perform, Conn.beginTx?, Response.ofMethod, absent]
      cases fits : opts.ensureLegacy with
      | error err =>
        rw [treatment_refused (.conn config inner) (.beginTx ctx opts) rfl rfl offered
          (some_map_error fits)]
        rfl
      | ok _ =>
        rw [treatment_legacy (.conn config inner) (.beginTx ctx opts) rfl rfl offered
          (some_map_ok fits)]
        rfl
  | ping ctx =>
    cases offered : inner.offers .pinger with
    | true => exact perform_conn_offered config inner rfl rfl rfl offered w
    | false =>
      have absent := eq_none offered
      simp only [target, Target.perform, Conn.perform, Conn.ping?, Response.ofMethod, absent]
      rw [treatment_idle (.conn config inner) (.ping ctx) rfl rfl offered rfl]
      rfl
  | resetSession ctx =>
    cases offered : inner.offers .sessionResetter with
    | true => exact perform_conn_offered config inner rfl rfl rfl offered w
    | false =>
      have absent := eq_none offered
      simp only [target, Target.perform, Conn.perform, Conn.resetSession?, Response.ofMethod,
        absent]
      rw [treatment_idle (.conn config inner) (.resetSession ctx) rfl rfl offered rfl]
      rfl
  | _ => rfl

theorem perform_stmt (config : Configuration) (text : String) (carried : Context) (inner : Stmt σ)
    (call : BaseCall) (w : World σ) :
    (stmt config text carried inner).target.perform call w =
      (stmt config text carried inner).carryOut call
        ((stmt config text carried inner).entry call w.ambient)
        ((stmt config text carried inner).treatment call) w := by
  let x := stmt config text carried inner
  cases call with
  | stmtExecContext ctx args =>
    cases offered : inner.offers .stmtExecContext with
    | true => exact perform_stmt_offered config text carried inner rfl rfl offered w
    | false =>
      have absent := eq_none offered
      simp only [target, Target.perform, Stmt.perform, Stmt.execContext?, absent]
      cases fits : NamedValue.toValues args with
      | error err =>
        rw [treatment_refused x (.stmtExecContext ctx args) rfl rfl offered (some_map_error fits)]
        rfl
      | ok values =>
        rw [treatment_legacy x (.stmtExecContext ctx args) rfl rfl offered (some_map_ok fits)]
        rfl
  | stmtQueryContext ctx args =>
    cases offered : inner.offers .stmtQueryContext with
    | true => exact perform_stmt_offered config text carried inner rfl rfl offered w
    | false =>
      have absent := eq_none offered
      simp only [target, Target.perform, Stmt.perform, Stmt.queryContext?, absent]
      cases fits : NamedValue.toValues args with
      | error err =>
        rw [treatment_refused x (.stmtQueryContext ctx args) rfl rfl offered (some_map_error fits)]
        rfl
      | ok values =>
        rw [treatment_legacy x (.stmtQueryContext ctx args) rfl rfl offered (some_map_ok fits)]
        rfl
  | _ => rfl

theorem perform_tx (config : Configuration) (carried : Context) (inner : Tx σ) (call : BaseCall)
    (w : World σ) :
    (tx config carried inner).target.perform call w =
      (tx config carried inner).carryOut call ((tx config carried inner).entry call w.ambient)
        ((tx config carried inner).treatment call) w := by
  cases call <;> rfl

/-- Whatever call is made on an observed handle, the tables say what becomes of it. -/
theorem perform_eq (x : Wrapper σ) (call : BaseCall) (w : World σ) :
    x.target.perform call w =
      x.carryOut call (x.entry call w.ambient) (x.treatment call) w := by
  cases x with
  | conn config inner => exact perform_conn config inner call w
  | stmt config text carried inner => exact perform_stmt config text carried inner call w
  | tx config carried inner => exact perform_tx config carried inner call w

end DriverTelemetry.Wrapper
