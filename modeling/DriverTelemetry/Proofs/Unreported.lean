import DriverTelemetry.Proofs.Observation

/-!
# Calls that are not reported

No hook is told of a call that cannot be made inside, in whatever form, nor of the end of a
statement. The calls of this sort are listed case by case, and all others are reported.
-/
namespace DriverTelemetry.Wrapper

variable {σ : Type}

/-- A legacy exec or query is not offered inside, or stands in for a call with named arguments. -/
def noFallback (x : Wrapper σ) (legacy : Capability) (args : List NamedValue) : Prop :=
  (args.any fun arg => arg.name.isSome) = true ∨ x.inner.offers legacy = false

/-- All the calls of which no hook is told. -/
inductive Unreported (x : Wrapper σ) : BaseCall → Prop where
  /-- Handles of this sort have no such call. -/
  | foreign {call : BaseCall} (h : x.inner.takes call = false) : Unreported x call
  | exec {text : String} {args : List Value} (h : x.inner.offers .execer = false) :
      Unreported x (.exec text args)
  | query {text : String} {args : List Value} (h : x.inner.offers .queryer = false) :
      Unreported x (.query text args)
  | execContext {ctx : Context} {text : String} {args : List NamedValue}
      (aware : x.inner.offers .execerContext = false) (legacy : x.noFallback .execer args) :
      Unreported x (.execContext ctx text args)
  | queryContext {ctx : Context} {text : String} {args : List NamedValue}
      (aware : x.inner.offers .queryerContext = false) (legacy : x.noFallback .queryer args) :
      Unreported x (.queryContext ctx text args)
  | beginTx {ctx : Context} {opts : TxOptions} (aware : x.inner.offers .beginTx = false)
      (legacy : opts.isolation ≠ .default ∨ opts.readOnly = true) : Unreported x (.beginTx ctx opts)
  | ping {ctx : Context} (h : x.inner.offers .pinger = false) : Unreported x (.ping ctx)
  | resetSession {ctx : Context} (h : x.inner.offers .sessionResetter = false) :
      Unreported x (.resetSession ctx)
  | stmtExecContext {ctx : Context} {args : List NamedValue}
      (aware : x.inner.offers .stmtExecContext = false)
      (named : (args.any fun arg => arg.name.isSome) = true) :
      Unreported x (.stmtExecContext ctx args)
  | stmtQueryContext {ctx : Context} {args : List NamedValue}
      (aware : x.inner.offers .stmtQueryContext = false)
      (named : (args.any fun arg => arg.name.isSome) = true) :
      Unreported x (.stmtQueryContext ctx args)
  | stmtClose : Unreported x .stmtClose

private theorem unnamed_of_fits {args : List NamedValue} {form : List Value → BaseCall}
    {made : BaseCall} (fits : some ((NamedValue.toValues args).map form) = some (.ok made)) :
    (args.any fun arg => arg.name.isSome) = false := by
  obtain ⟨values, stripped, -⟩ := Result.of_map_eq_ok (Option.some.inj fits)
  exact (NamedValue.toValues_eq_ok.mp stripped).1

/-- A fallback that is reported has no named argument and is offered inside. -/
private theorem not_noFallback {x : Wrapper σ} {args : List NamedValue} {legacy : Capability}
    {made : BaseCall} {form : List Value → BaseCall}
    (fits : some ((NamedValue.toValues args).map form) = some (.ok made))
    (accepted : x.inner.accepts made = true)
    (needed : ∀ values, (form values).capability? = some legacy) :
    ¬ x.noFallback legacy args := by
  rintro (named | absent)
  · rw [unnamed_of_fits fits] at named
    cases named
  · obtain ⟨values, -, rfl⟩ := Result.of_map_eq_ok (Option.some.inj fits)
    rw [Target.offers_of_accepts accepted (needed values)] at absent
    cases absent

theorem not_reported {x : Wrapper σ} {call : BaseCall} (h : x.Unreported call) (made : BaseCall) :
    x.treatment call ≠ .reported made := by
  intro reported
  cases h with
  | foreign h => simp [treatment, h] at reported
  | exec absent => cases (legacy_of_absent reported rfl absent).1
  | query absent => cases (legacy_of_absent reported rfl absent).1
  | execContext absent legacy =>
    obtain ⟨fits, accepted⟩ := legacy_of_absent reported rfl absent
    exact not_noFallback fits accepted (fun _ => rfl) legacy
  | queryContext absent legacy =>
    obtain ⟨fits, accepted⟩ := legacy_of_absent reported rfl absent
    exact not_noFallback fits accepted (fun _ => rfl) legacy
  | beginTx absent legacy =>
    obtain ⟨fits, -⟩ := legacy_of_absent reported rfl absent
    obtain ⟨_, plain, -⟩ := Result.of_map_eq_ok (Option.some.inj fits)
    obtain ⟨isolation, readOnly⟩ := TxOptions.ensureLegacy_eq_ok.mp plain
    rcases legacy with isolated | written
    · exact isolated isolation
    · rw [readOnly] at written
      cases written
  | ping absent => cases (legacy_of_absent reported rfl absent).1
  | resetSession absent => cases (legacy_of_absent reported rfl absent).1
  | stmtExecContext absent named =>
    rw [unnamed_of_fits (legacy_of_absent reported rfl absent).1] at named
    cases named
  | stmtQueryContext absent named =>
    rw [unnamed_of_fits (legacy_of_absent reported rfl absent).1] at named
    cases named
  | stmtClose =>
    rcases treatment_reported reported with ⟨-, -, other⟩ | ⟨-, fits, -⟩
    · exact other rfl
    · cases fits

/-- A call is reported where it is offered, or where its legacy form is accepted in its place. -/
private theorem reported_or {x : Wrapper σ} {call : BaseCall} {c : Capability}
    (taken : x.inner.takes call = true) (needed : call.capability? = some c)
    (fits : x.inner.offers c = false →
      ∃ legacy, call.legacy? = some (.ok legacy) ∧ x.inner.accepts legacy = true) :
    ∃ made, x.treatment call = .reported made := by
  cases offered : x.inner.offers c with
  | true => exact ⟨call, treatment_offered x call taken needed offered⟩
  | false =>
    obtain ⟨legacy, fits, accepted⟩ := fits offered
    refine ⟨legacy, ?_⟩
    rw [treatment_legacy x call taken needed offered fits, accepted]
    rfl

private theorem reported_plain {x : Wrapper σ} {call : BaseCall} (taken : x.inner.takes call = true)
    (plain : call.capability? = none) (other : call ≠ .stmtClose) :
    ∃ made, x.treatment call = .reported made :=
  ⟨call, by simp [treatment, Target.accepts, taken, plain, other]⟩

private theorem takes_legacy {t : Target σ} {call legacy : BaseCall} (taken : t.takes call = true)
    (fits : call.legacy? = some (.ok legacy)) : t.takes legacy = true := by
  cases call with
  | prepareContext ctx text =>
    cases fits
    cases t <;> exact taken
  | execContext ctx text args | queryContext ctx text args | beginTx ctx opts
  | stmtExecContext ctx args | stmtQueryContext ctx args =>
    obtain ⟨_, -, rfl⟩ := Result.of_map_eq_ok (Option.some.inj fits)
    cases t <;> exact taken
  | _ => cases fits

private theorem legacy_of_unnamed {call : BaseCall} {args : List NamedValue}
    {form : List Value → BaseCall}
    (isForm : call.legacy? = some ((NamedValue.toValues args).map form))
    (unnamed : ¬ (args.any fun arg => arg.name.isSome) = true) :
    call.legacy? = some (.ok (form (args.map NamedValue.value))) := by
  rw [isForm, NamedValue.toValues_eq, if_neg unnamed]
  rfl

private theorem fallback_fits {x : Wrapper σ} {call : BaseCall} {args : List NamedValue}
    {legacy : Capability} {form : List Value → BaseCall}
    (isForm : call.legacy? = some ((NamedValue.toValues args).map form))
    (needed : ∀ values, (form values).capability? = some legacy)
    (taken : x.inner.takes call = true) (possible : ¬ x.noFallback legacy args) :
    ∃ legacy, call.legacy? = some (.ok legacy) ∧ x.inner.accepts legacy = true := by
  obtain ⟨unnamed, offered⟩ := not_or.mp possible
  have fits := legacy_of_unnamed isForm unnamed
  refine ⟨_, fits, ?_⟩
  rw [Target.accepts_of_capability (takes_legacy taken fits) (needed _)]
  exact Bool.not_eq_false _ ▸ offered

private theorem plain_fits {x : Wrapper σ} {call legacy : BaseCall}
    (taken : x.inner.takes call = true) (fits : call.legacy? = some (.ok legacy))
    (plain : legacy.capability? = none) :
    ∃ legacy, call.legacy? = some (.ok legacy) ∧ x.inner.accepts legacy = true :=
  ⟨legacy, fits, by simp [Target.accepts, takes_legacy taken fits, plain]⟩

theorem exists_reported {x : Wrapper σ} {call : BaseCall} (h : ¬ x.Unreported call) :
    ∃ made, x.treatment call = .reported made := by
  have taken : x.inner.takes call = true := by
    rw [← Bool.not_eq_false]
    exact fun foreign => h (.foreign foreign)
  cases call with
  | exec text args => exact reported_or taken rfl fun absent => absurd (.exec absent) h
  | query text args => exact reported_or taken rfl fun absent => absurd (.query absent) h
  | execContext ctx text args =>
    exact reported_or taken rfl fun absent => fallback_fits rfl (fun _ => rfl) taken
      fun legacy => h (.execContext absent legacy)
  | queryContext ctx text args =>
    exact reported_or taken rfl fun absent => fallback_fits rfl (fun _ => rfl) taken
      fun legacy => h (.queryContext absent legacy)
  | prepareContext ctx text =>
    exact reported_or taken rfl fun _ => plain_fits taken rfl rfl
  | beginTx ctx opts =>
    refine reported_or taken rfl fun absent => ?_
    have plain : opts.ensureLegacy = .ok () := by
      rw [TxOptions.ensureLegacy_eq_ok]
      refine ⟨Classical.not_not.mp fun isolated => h (.beginTx absent (.inl isolated)), ?_⟩
      exact Bool.not_eq_true _ ▸ fun readOnly => h (.beginTx absent (.inr readOnly))
    have fits : (BaseCall.beginTx ctx opts).legacy? = some (.ok .begin) := by
      rw [BaseCall.legacy?, plain]
      rfl
    exact plain_fits taken fits rfl
  | ping ctx => exact reported_or taken rfl fun absent => absurd (.ping absent) h
  | resetSession ctx => exact reported_or taken rfl fun absent => absurd (.resetSession absent) h
  | stmtExecContext ctx args =>
    exact reported_or taken rfl fun absent =>
      plain_fits taken (legacy_of_unnamed rfl fun named => h (.stmtExecContext absent named)) rfl
  | stmtQueryContext ctx args =>
    exact reported_or taken rfl fun absent =>
      plain_fits taken (legacy_of_unnamed rfl fun named => h (.stmtQueryContext absent named)) rfl
  | stmtClose => exact absurd .stmtClose h
  | _ => exact reported_plain taken rfl nofun

end DriverTelemetry.Wrapper
