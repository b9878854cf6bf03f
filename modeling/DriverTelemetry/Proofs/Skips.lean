import DriverTelemetry.Proofs.Alike
import DriverTelemetry.Proofs.Observation
import DriverTelemetry.Session.Bench

/-!
# Direct calls that are skipped

An observed connection offers an exec and a query with a context also where the connection inside
has no form of them. Such a call fails at once: it is refused for the names among its arguments,
which no legacy form could take, and skipped where there are none. Either way no hook runs, no base
call is made and nothing changes, so that the round trip through a statement is still open.
-/
namespace DriverTelemetry

variable {σ : Type}

namespace Wrapper

theorem perform_silent {x : Wrapper σ} {call : BaseCall} {r : Response σ}
    (silent : x.treatment call = .silent r) (w : World σ) :
    x.target.perform call w = ((r, x.target), w) := by
  rw [perform_eq, silent]
  rfl

/-- Whether the arguments fit into the legacy form is looked at before whether that is offered. -/
theorem treatment_unavailable (x : Wrapper σ) (call : BaseCall) {c legacy : Capability}
    {args : List NamedValue} {form : List Value → BaseCall} (taken : x.inner.takes call = true)
    (needed : call.capability? = some c) (absent : x.inner.offers c = false)
    (isForm : call.legacy? = some ((NamedValue.toValues args).map form))
    (formNeeded : ∀ values, (form values).capability? = some legacy)
    (formAbsent : x.inner.offers legacy = false) :
    x.treatment call =
      .silent (if args.any fun arg => arg.name.isSome then call.refusal .namedParameters
        else call.idle) := by
  rw [NamedValue.toValues_eq] at isForm
  split at isForm
  · next named => rw [treatment_refused x call taken needed absent isForm, if_pos named]
  · next unnamed =>
    have declined : x.inner.accepts (form (args.map NamedValue.value)) = false := by
      simp [Target.accepts, formNeeded, formAbsent]
    rw [treatment_legacy x call taken needed absent isForm, declined, if_neg unnamed]
    rfl

end Wrapper

namespace Conn

def unavailable (args : List NamedValue) : DriverError :=
  if args.any fun arg => arg.name.isSome then .namedParameters else .skip

theorem unavailable_ofValues (values : List Value) :
    unavailable (NamedValue.ofValues values) = .skip := by
  rw [unavailable, NamedValue.ofValues, NamedValue.any_named_numberedFrom]
  rfl

section

variable (config : Configuration) {inner : Conn σ} (ctx : Context) (text : String)

theorem perform_execContext_unavailable (aware : inner.offers .execerContext = false)
    (legacy : inner.offers .execer = false) (args : List NamedValue) (w : World σ) :
    (Target.conn (.observed config inner)).perform (.execContext ctx text args) w =
      ((.summary (.error (unavailable args)), .conn (.observed config inner)), w) := by
  have treated := Wrapper.treatment_unavailable (.conn config inner) (.execContext ctx text args)
    rfl rfl aware rfl (fun _ => rfl) legacy
  refine (Wrapper.perform_silent treated w).trans ?_
  unfold unavailable
  split <;> rfl

theorem perform_queryContext_unavailable (aware : inner.offers .queryerContext = false)
    (legacy : inner.offers .queryer = false) (args : List NamedValue) (w : World σ) :
    (Target.conn (.observed config inner)).perform (.queryContext ctx text args) w =
      ((.rows (.error (unavailable args)), .conn (.observed config inner)), w) := by
  have treated := Wrapper.treatment_unavailable (.conn config inner) (.queryContext ctx text args)
    rfl rfl aware rfl (fun _ => rfl) legacy
  refine (Wrapper.perform_silent treated w).trans ?_
  unfold unavailable
  split <;> rfl

end

section

variable (config : Configuration) {inner : Conn σ} (ctx : Context) (text : String)
  (values : List Value)

theorem directExec_unavailable (aware : inner.offers .execerContext = false)
    (legacy : inner.offers .execer = false) (w : World σ) :
    FrontEnd.directExec (.observed config inner) ctx text values w = (.error .skip, w) := by
  have performed := perform_execContext_unavailable config ctx text aware legacy
    (NamedValue.ofValues values) w
  rw [unavailable_ofValues] at performed
  let direct := FrontEnd.directExec (.observed config inner) ctx text values w
  have answer : (.summary direct.1 : Response σ) = .summary (.error .skip) :=
    congrArg (fun p => p.1.1) performed
  have still : direct.2 = w := congrArg Prod.snd performed
  exact Prod.ext (Response.summary.inj answer) still

theorem directQuery_unavailable (aware : inner.offers .queryerContext = false)
    (legacy : inner.offers .queryer = false) (w : World σ) :
    FrontEnd.directQuery (.observed config inner) ctx text values w = (.error .skip, w) := by
  have performed := perform_queryContext_unavailable config ctx text aware legacy
    (NamedValue.ofValues values) w
  rw [unavailable_ofValues] at performed
  let direct := FrontEnd.directQuery (.observed config inner) ctx text values w
  have answer : (.rows direct.1 : Response σ) = .rows (.error .skip) :=
    congrArg (fun p => p.1.1) performed
  have still : direct.2 = w := congrArg Prod.snd performed
  exact Prod.ext (Response.rows.inj answer) still

theorem exec_unavailable (aware : inner.offers .execerContext = false)
    (legacy : inner.offers .execer = false) (w : World σ) :
    FrontEnd.exec (.observed config inner) ctx text values w =
      FrontEnd.throughStmt (.observed config inner) ctx text
        (fun s => FrontEnd.execStmt s ctx values) w := by
  unfold FrontEnd.exec
  rw [Run.bind_apply, directExec_unavailable config ctx text values aware legacy]

theorem query_unavailable (aware : inner.offers .queryerContext = false)
    (legacy : inner.offers .queryer = false) (w : World σ) :
    FrontEnd.query (.observed config inner) ctx text values w =
      FrontEnd.throughStmt (.observed config inner) ctx text
        (fun s => FrontEnd.queryStmt s ctx values) w := by
  unfold FrontEnd.query
  rw [Run.bind_apply, directQuery_unavailable config ctx text values aware legacy]

end

/-- Where the connection inside has no form of an exec, one with a context is answered without any
hook, base call or change, and the front-end makes the round trip through a statement with the same
arguments; so it is with queries. An observed connection inside would have all the forms. -/
theorem perform_unavailable (config : Configuration) (inner : Conn σ) (ctx : Context)
    (text : String) (w : World σ) :
    (inner.offers .execer = false → inner.offers .execerContext = false →
      (∀ args, (Target.conn (.observed config inner)).perform (.execContext ctx text args) w =
        ((.summary (.error (unavailable args)), .conn (.observed config inner)), w)) ∧
      ∀ values, FrontEnd.exec (.observed config inner) ctx text values w =
        FrontEnd.throughStmt (.observed config inner) ctx text
          (fun s => FrontEnd.execStmt s ctx values) w) ∧
    (inner.offers .queryer = false → inner.offers .queryerContext = false →
      (∀ args, (Target.conn (.observed config inner)).perform (.queryContext ctx text args) w =
        ((.rows (.error (unavailable args)), .conn (.observed config inner)), w)) ∧
      ∀ values, FrontEnd.query (.observed config inner) ctx text values w =
        FrontEnd.throughStmt (.observed config inner) ctx text
          (fun s => FrontEnd.queryStmt s ctx values) w) := by
  refine ⟨fun legacy aware => ⟨fun args => ?_, fun values => ?_⟩,
    fun legacy aware => ⟨fun args => ?_, fun values => ?_⟩⟩
  · exact perform_execContext_unavailable config ctx text aware legacy args w
  · exact exec_unavailable config ctx text values aware legacy w
  · exact perform_queryContext_unavailable config ctx text aware legacy args w
  · exact query_unavailable config ctx text values aware legacy w

/-- An exec without arguments and a query with a name, both before an open span and one hook of each
kind on a driver with mandatory calls only. -/
theorem perform_unavailable_bare :
    let inner : Conn Bench := .base (Scripted.conn Bench.onFaults 0 (.standard .none))
    let config : Configuration :=
      ⟨.sqlite, [.record "seen", .log .standard, .trace ⟨"scope", true, []⟩]⟩
    let w : World Bench := ⟨⟨[.none], []⟩, .empty, .empty⟩
    let c : Target Bench := .conn (.observed config inner)
    c.perform (.execContext .empty "INSERT" []) w = ((.summary (.error .skip), c), w) ∧
      c.perform (.queryContext .empty "SELECT" [⟨some "bar", 1, .int 1⟩]) w =
        ((.rows (.error .namedParameters), c), w) := by
  intro inner config w c
  obtain ⟨execs, -⟩ := perform_unavailable config inner .empty "INSERT" w
  obtain ⟨-, queries⟩ := perform_unavailable config inner .empty "SELECT" w
  exact ⟨(execs rfl rfl).1 [], (queries rfl rfl).1 [⟨some "bar", 1, .int 1⟩]⟩

/-- With a name among its arguments a call is not skipped. -/
theorem not_skipped_named :
    ¬ ∀ (config : Configuration) (inner : Conn Bench) (ctx : Context) (text : String)
      (args : List NamedValue) (w : World Bench),
      inner.offers .execer = false → inner.offers .execerContext = false →
      (Target.conn (.observed config inner)).perform (.execContext ctx text args) w =
        ((.summary (.error .skip), .conn (.observed config inner)), w) := by
  intro skipped
  have answer := congrArg (fun p => p.1.1.error?)
    (skipped ⟨.sqlite, [.record "seen"]⟩
      (.base (Scripted.conn Bench.onFaults 0 (.standard .none))) .empty "INSERT"
      [⟨some "bar", 1, .int 1⟩] ⟨⟨[.none], []⟩, .empty, .empty⟩ rfl rfl)
  cases answer

end Conn
end DriverTelemetry
