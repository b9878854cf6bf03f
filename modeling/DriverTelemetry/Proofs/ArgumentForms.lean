import DriverTelemetry.Proofs.ArgumentReports
import DriverTelemetry.Proofs.Transparency

/-!
# The two forms of arguments

Arguments without names are handed over by their positions, with a context, or as plain values,
without one. Neither conversion loses any of them, both forms read the same, and the hooks see of
them no more than how they read. So what the hooks tell of the arguments of an exec or a query is up
to the arguments alone, whichever way the call goes.
-/
namespace DriverTelemetry

variable {σ α β : Type}

namespace Arguments

structure SameShown (args other : Arguments) : Prop where
  display : args.display = other.display
  isEmpty : args.isEmpty = other.isEmpty

theorem SameShown.refl (args : Arguments) : SameShown args args := ⟨rfl, rfl⟩

end Arguments

namespace NamedValue

theorem toValues_eq_error_iff {args : List NamedValue} {err : DriverError} :
    toValues args = .error err ↔
      err = .namedParameters ∧ ∃ arg ∈ args, arg.name.isSome = true := by
  rw [toValues_eq, ← List.any_eq_true]
  cases args.any fun arg => arg.name.isSome with
  | true => simp [eq_comm]
  | false => simp

theorem sameShown_of_toValues {args : List NamedValue} {vs : List Value}
    (fits : toValues args = .ok vs) : Arguments.SameShown (.named args) (.values vs) := by
  obtain ⟨unnamed, rfl⟩ := toValues_eq_ok.mp fits
  have items : args.map render = (args.map value).map Value.render := by
    rw [List.map_map]
    refine List.map_congr_left fun arg listed => ?_
    have positional : arg.name = none := by
      simpa using List.any_eq_false.mp unnamed arg listed
    rw [render, positional]
    rfl
  constructor
  · simp only [Arguments.display, Arguments.render, Arguments.items, items]
  · exact List.isEmpty_map.symm

theorem map_ordinal_numberedFrom (n : Nat) (vs : List Value) :
    (numberedFrom n vs).map ordinal = List.range' n vs.length := by
  induction vs generalizing n with
  | nil => rfl
  | cons v vs ih => rw [numberedFrom, List.map_cons, ih, List.length_cons, List.range'_succ]; rfl

theorem sameShown_ofValues (vs : List Value) :
    Arguments.SameShown (.named (ofValues vs)) (.values vs) :=
  sameShown_of_toValues (toValues_ofValues vs)

end NamedValue

namespace Arguments.SameShown

variable {args other : Arguments} (same : SameShown args other) (e : Event)

include same

theorem fields_eq (h : LogHook) : h.fields (e.withArgs args) = h.fields (e.withArgs other) := by
  unfold LogHook.fields
  simp only [Event.withArgs, same.display]
  rfl

theorem attributes_eq (h : TraceHook) :
    h.attributes (e.withArgs args) = h.attributes (e.withArgs other) := by
  unfold TraceHook.attributes
  simp only [Event.withArgs, same.display, same.isEmpty]
  rfl

end Arguments.SameShown

/-- How arguments read in what is reported of an operation: where a statement is prepared on the
way, there are none. -/
def argumentText (args : List Value) (operation : String) : String :=
  if operation = Operation.connPrepare.name ∨ operation = Operation.connPrepareContext.name then
    Arguments.none.display
  else (Arguments.values args).display

/-- A report of a call that is made in the course of an exec or a query with these arguments. -/
def ReportOf (args : List Value) (r : ArgumentReport) : Prop :=
  r.text = argumentText args r.operation

theorem reportOf_use {args : List Value} {given : Arguments} (same : given.SameShown (.values args))
    {op : Operation} (used : op ≠ .connPrepare ∧ op ≠ .connPrepareContext)
    (config : Configuration) (text : String) :
    ReportOf args (.ofEvent (((config.event op).withQuery text).withArgs given)) := by
  have other : ¬ (op.name = Operation.connPrepare.name ∨
      op.name = Operation.connPrepareContext.name) := by
    rintro (prepares | prepares)
    · exact used.1 (Operation.name_injective prepares)
    · exact used.2 (Operation.name_injective prepares)
  exact same.display.trans (if_neg other).symm

theorem reportOf_prepare (args : List Value) {op : Operation}
    (prepares : op = .connPrepare ∨ op = .connPrepareContext) (config : Configuration)
    (text : String) :
    ReportOf args (.ofEvent (((config.event op).withQuery text).withArgs .none)) :=
  (if_pos (prepares.imp (congrArg Operation.name) (congrArg Operation.name))).symm

section

variable (args : List Value)

namespace Stmt

theorem reports_use {given : Arguments} (same : given.SameShown (.values args)) {op : Operation}
    (used : op ≠ .connPrepare ∧ op ≠ .connPrepareContext) {config : Configuration} {text : String}
    {carried ctx : Context} {verdict : Result α → Verdict}
    {call : Context → Run σ (Result α × Stmt σ)}
    (inside : ∀ ctx, Run.ReportsOnly (ReportOf args) (call ctx)) :
    Run.ReportsOnly (ReportOf args) (report config text carried ctx op given verdict call) :=
  (Run.ReportsOnly.observe (reportOf_use same used config text) inside).exchange _ _ _

theorem reports_execAny (s : Stmt σ) (ctx : Context) :
    Run.ReportsOnly (ReportOf args) (s.execAny ctx args) := by
  induction s generalizing ctx with
  | base s =>
    cases h : s.execContext with
    | none =>
      simp only [execAny, execContext?, h, Option.map_none]
      exact (Run.ReportsOnly.ask _ _ _).map _
    | some m =>
      simp only [execAny, execContext?, h, Option.map_some]
      exact (Run.ReportsOnly.ask _ _ _).map _
  | observed config text carried inner ih =>
    cases h : inner.execContext? with
    | none =>
      -- The positions carry no names, so the legacy call gets the values that were numbered.
      simp only [execAny, h] at ih
      simp only [execAny, execContext?, h, NamedValue.toValues_ofValues]
      exact reports_use args (.refl _) (by decide) ih
    | some m =>
      simp only [execAny, h] at ih
      simp only [execAny, execContext?, h]
      exact reports_use args (NamedValue.sameShown_ofValues args) (by decide) ih

theorem reports_queryAny (s : Stmt σ) (ctx : Context) :
    Run.ReportsOnly (ReportOf args) (s.queryAny ctx args) := by
  induction s generalizing ctx with
  | base s =>
    cases h : s.queryContext with
    | none =>
      simp only [queryAny, queryContext?, h, Option.map_none]
      exact (Run.ReportsOnly.ask _ _ _).map _
    | some m =>
      simp only [queryAny, queryContext?, h, Option.map_some]
      exact (Run.ReportsOnly.ask _ _ _).map _
  | observed config text carried inner ih =>
    cases h : inner.queryContext? with
    | none =>
      simp only [queryAny, h] at ih
      simp only [queryAny, queryContext?, h, NamedValue.toValues_ofValues]
      exact reports_use args (.refl _) (by decide) ih
    | some m =>
      simp only [queryAny, h] at ih
      simp only [queryAny, queryContext?, h]
      exact reports_use args (NamedValue.sameShown_ofValues args) (by decide) ih

theorem reports_close {P : ArgumentReport → Prop} (s : Stmt σ) : Run.ReportsOnly P s.close := by
  induction s with
  | base s => exact .ask s.id .stmtClose s.close
  | observed config text carried inner ih => exact ih

end Stmt

namespace Conn

theorem reports_use {given : Arguments} (same : given.SameShown (.values args)) {op : Operation}
    (used : op ≠ .connPrepare ∧ op ≠ .connPrepareContext) {config : Configuration} {text : String}
    {ctx : Context} {verdict : Result α → Verdict} {call : Context → Run σ (Result α)}
    (inside : ∀ ctx, Run.ReportsOnly (ReportOf args) (call ctx)) :
    Run.ReportsOnly (ReportOf args) (reportPlain config ctx op text given verdict call) :=
  (Run.ReportsOnly.observe (reportOf_use same used config text) inside).map _

theorem reports_directExec (c : Conn σ) (ctx : Context) (text : String) :
    Run.ReportsOnly (ReportOf args) (FrontEnd.directExec c ctx text args) := by
  induction c generalizing ctx with
  | base c =>
    simp only [FrontEnd.directExec, execContext?, exec?]
    cases c.execContext with
    | some m => exact .ask _ _ _
    | none =>
      cases c.exec with
      | some m => exact .ask _ _ _
      | none => exact .pure _
  | observed config inner ih =>
    simp only [FrontEnd.directExec, execContext?]
    cases h : inner.execContext? with
    | some m =>
      simp only [FrontEnd.directExec, h] at ih
      exact reports_use args (NamedValue.sameShown_ofValues args) (by decide) ih
    | none =>
      simp only [NamedValue.toValues_ofValues, execVia]
      cases legacy : inner.exec? with
      | some m =>
        simp only [FrontEnd.directExec, h, legacy] at ih
        exact reports_use args (.refl _) (by decide) ih
      | none => exact .pure _

theorem reports_directQuery (c : Conn σ) (ctx : Context) (text : String) :
    Run.ReportsOnly (ReportOf args) (FrontEnd.directQuery c ctx text args) := by
  induction c generalizing ctx with
  | base c =>
    simp only [FrontEnd.directQuery, queryContext?, query?]
    cases c.queryContext with
    | some m => exact .ask _ _ _
    | none =>
      cases c.query with
      | some m => exact .ask _ _ _
      | none => exact .pure _
  | observed config inner ih =>
    simp only [FrontEnd.directQuery, queryContext?]
    cases h : inner.queryContext? with
    | some m =>
      simp only [FrontEnd.directQuery, h] at ih
      exact reports_use args (NamedValue.sameShown_ofValues args) (by decide) ih
    | none =>
      simp only [NamedValue.toValues_ofValues, queryVia]
      cases legacy : inner.query? with
      | some m =>
        simp only [FrontEnd.directQuery, h, legacy] at ih
        exact reports_use args (.refl _) (by decide) ih
      | none => exact .pure _

theorem reports_prepareAny (c : Conn σ) (ctx : Context) (text : String) :
    Run.ReportsOnly (ReportOf args) (c.prepareAny ctx text) := by
  induction c generalizing ctx with
  | base c =>
    cases h : c.prepareContext with
    | none =>
      simp only [prepareAny, prepareContext?, h, Option.map_none]
      exact (Run.ReportsOnly.ask _ _ _).map _
    | some m =>
      simp only [prepareAny, prepareContext?, h, Option.map_some]
      exact (Run.ReportsOnly.ask _ _ _).map _
  | observed config inner ih =>
    cases h : inner.prepareContext? with
    | none =>
      simp only [prepareAny, h] at ih
      simp only [prepareAny, prepareContext?, h]
      exact (Run.ReportsOnly.observe (reportOf_prepare args (.inl rfl) config text) ih).exchange
        _ _ _
    | some m =>
      simp only [prepareAny, h] at ih
      simp only [prepareAny, prepareContext?, h]
      exact (Run.ReportsOnly.observe (reportOf_prepare args (.inr rfl) config text) ih).exchange
        _ _ _

end Conn

namespace FrontEnd

theorem reports_execStmt (s : Stmt σ) (ctx : Context) :
    Run.ReportsOnly (ReportOf args) (execStmt s ctx args) := by
  rw [execStmt_eq]
  exact (s.reports_execAny args ctx).map _

theorem reports_queryStmt (s : Stmt σ) (ctx : Context) :
    Run.ReportsOnly (ReportOf args) (queryStmt s ctx args) := by
  rw [queryStmt_eq]
  exact (s.reports_queryAny args ctx).map _

theorem reports_closeQuietly {P : ArgumentReport → Prop} (s : Stmt σ) :
    Run.ReportsOnly P (closeQuietly s) := by
  unfold closeQuietly
  refine s.reports_close.bind fun closing => ?_
  cases closing with
  | ok _ => exact .pure ()
  | error err =>
    intro w
    exact Telemetry.reports_emit (e := .logged (notClosed err)) nofun w.telemetry

theorem reports_throughStmt (c : Conn σ) (ctx : Context) (text : String)
    {call : Stmt σ → Run σ (Answer α × Stmt σ)}
    (used : ∀ s, Run.ReportsOnly (ReportOf args) (call s)) :
    Run.ReportsOnly (ReportOf args) (throughStmt c ctx text call) := by
  unfold throughStmt
  rw [prepare_eq]
  refine ((c.reports_prepareAny args ctx text).map _).bind fun prepared => ?_
  cases prepared with
  | error err => exact .pure _
  | ok stmt =>
    exact (used stmt).bind fun answered => (reports_closeQuietly answered.2).exchange _ _ _

theorem reports_exec (c : Conn σ) (ctx : Context) (text : String) :
    Run.ReportsOnly (ReportOf args) (exec c ctx text args) := by
  unfold exec
  refine (c.reports_directExec args ctx text).bind fun answered => ?_
  split
  · exact reports_throughStmt args c ctx text fun s => reports_execStmt args s ctx
  · exact .pure _

theorem reports_query (c : Conn σ) (ctx : Context) (text : String) :
    Run.ReportsOnly (ReportOf args) (query c ctx text args) := by
  unfold query
  refine (c.reports_directQuery args ctx text).bind fun answered => ?_
  split
  · exact reports_throughStmt args c ctx text fun s => reports_queryStmt args s ctx
  · exact .pure _

end FrontEnd

end

/-- Arguments without names and plain values stand for each other. Only a name keeps a list from
becoming plain values; else it becomes its values in their order, whatever their positions, and
reads as these do, to the hooks as well. Plain values are numbered from 1 and come back as they
were. So what any hook around a handle tells of the arguments of an exec or a query, up to the calls
that prepare a statement for it, is how the values read, whichever calls the base driver offers and
whatever it answers. -/
theorem FrontEnd.forms_interchangeable :
    (∀ xs : List NamedValue,
      (∀ err, NamedValue.toValues xs = .error err ↔
        err = .namedParameters ∧ ∃ x ∈ xs, x.name.isSome = true) ∧
      ((∀ x ∈ xs, x.name = none) →
        NamedValue.toValues xs = .ok (xs.map NamedValue.value)) ∧
      ∀ vs, NamedValue.toValues xs = .ok vs →
        (Arguments.named xs).display = (Arguments.values vs).display ∧
        (Arguments.named xs).isEmpty = (Arguments.values vs).isEmpty ∧
        ∀ e : Event,
          (∀ h : LogHook, h.fields (e.withArgs (.named xs)) = h.fields (e.withArgs (.values vs))) ∧
          ∀ h : TraceHook,
            h.attributes (e.withArgs (.named xs)) = h.attributes (e.withArgs (.values vs))) ∧
    (∀ vs : List Value,
      (NamedValue.ofValues vs).map NamedValue.ordinal = List.range' 1 vs.length ∧
      (∀ x ∈ NamedValue.ofValues vs, x.name = none) ∧
      NamedValue.toValues (NamedValue.ofValues vs) = .ok vs) ∧
    ∀ {σ : Type} (c : Conn σ) (s : Stmt σ) (ctx : Context) (text : String) (args : List Value),
      Run.ReportsOnly (ReportOf args) (exec c ctx text args) ∧
      Run.ReportsOnly (ReportOf args) (query c ctx text args) ∧
      Run.ReportsOnly (ReportOf args) (execStmt s ctx args) ∧
      Run.ReportsOnly (ReportOf args) (queryStmt s ctx args) := by
  refine ⟨fun xs => ⟨fun err => NamedValue.toValues_eq_error_iff, fun unnamed => ?_,
    fun vs fits => ?_⟩, fun vs => ⟨?_, fun x listed => ?_, NamedValue.toValues_ofValues vs⟩, ?_⟩
  · rw [NamedValue.toValues_eq_ok, List.any_eq_false]
    refine ⟨fun x listed => ?_, rfl⟩
    rw [unnamed x listed]
    exact Bool.false_ne_true
  · have same := NamedValue.sameShown_of_toValues fits
    exact ⟨same.display, same.isEmpty, fun e => ⟨same.fields_eq e, same.attributes_eq e⟩⟩
  · exact NamedValue.map_ordinal_numberedFrom 1 vs
  · simpa using List.any_eq_false.mp (NamedValue.any_named_numberedFrom 1 vs) x listed
  · intro σ c s ctx text args
    exact ⟨reports_exec args c ctx text, reports_query args c ctx text,
      reports_execStmt args s ctx, reports_queryStmt args s ctx⟩

/-- Two notes, a record and a span, under the name of the call that was made. -/
example :
    let hooks : List Hook := [.record "hook", .log ⟨.info, true, []⟩, .trace ⟨"scope", true, []⟩]
    let w : World Scripted.FaultPlans := ⟨[], .empty, .empty⟩
    let reports (caps : Capabilities) : List (String × String) :=
      let base : Conn Scripted.FaultPlans := .base (Scripted.conn (fun m => m) 0 (.standard caps))
      let call := FrontEnd.exec (.observed ⟨.sqlite, hooks⟩ base) .empty "DELETE" [.text "a", .null]
      let t := (call w).2.telemetry
      (t.effects.filterMap ArgumentReport.ofEffect? ++ t.spans.filterMap ArgumentReport.ofSpan?).map
        fun r => (r.operation, r.text)
    reports [.execerContext] = List.replicate 4 ("connection:exec-context", "[\"a\", NULL]") ∧
      reports [.execer] = List.replicate 4 ("connection:exec", "[\"a\", NULL]") := by
  decide +kernel

end DriverTelemetry
