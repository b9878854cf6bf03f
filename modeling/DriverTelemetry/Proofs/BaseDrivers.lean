import DriverTelemetry.Proofs.Unobserved
import DriverTelemetry.Session.Bench

/-!
# The base drivers ignore contexts

Neither a scripted driver nor that of the embedded database looks at the context of a call. Their
states may be parts of a larger one, as long as a call on the part answers as it does alone.
-/
namespace DriverTelemetry

variable {σ τ α β : Type}

namespace Call

theorem answers_pure {a b : α} (h : (pure a : Call σ α).Answers (.ok b)) : b = a := by
  obtain ⟨s, hs⟩ := h
  exact (Except.ok.inj hs).symm

theorem run_bind (m : Call σ α) (f : α → Call σ β) (s : σ) :
    (m >>= f).run s = match m.run s with
      | (.ok a, s') => (f a).run s'
      | (.error err, s') => (.error err, s') := by
  unfold ExceptT.run
  simp only [bind, ExceptT.bind, ExceptT.mk, StateT.bind]
  cases m s with
  | mk answer s' => cases answer <;> rfl

theorem answers_bind {m : Call σ α} {f : α → Call σ β} {b : β}
    (h : (m >>= f).Answers (.ok b)) : ∃ a, m.Answers (.ok a) ∧ (f a).Answers (.ok b) := by
  obtain ⟨s, hs⟩ := h
  rw [run_bind] at hs
  cases answered : m.run s with
  | mk answer s' =>
    rw [answered] at hs
    cases answer with
    | ok a => exact ⟨a, ⟨s, congrArg Prod.fst answered⟩, s', hs⟩
    | error err => cases hs

/-- Calls on a part of a state give no other answers than they give alone. -/
def OnPart (part : {α : Type} → Call τ α → Call σ α) : Prop :=
  ∀ {α : Type} (m : Call τ α) (r : Result α), (part m).Answers r → m.Answers r

end Call

namespace Scripted

variable {part : {α : Type} → Call FaultPlans α → Call σ α} {id : BaseId} {script : Script}

theorem eq_of_answers (alone : Call.OnPart part) {call : BaseCall} {a b : α}
    (h : (answer part id call a).Answers (.ok b)) : b = a := by
  obtain ⟨plans, answered⟩ := alone _ _ h
  change (FaultPlans.answer id call.name a plans).1 = _ at answered
  unfold FaultPlans.answer at answered
  split at answered
  · cases answered
  · exact (Except.ok.inj answered).symm

theorem contextBlind_stmt : (stmt part id script).ContextBlind where
  exec m h ctx ctx' args := by
    rw [Capabilities.eq_of_offer_eq_some h]
    rfl
  query m h ctx ctx' args := by
    rw [Capabilities.eq_of_offer_eq_some h]
    rfl

theorem contextBlind_conn (alone : Call.OnPart part) : (conn part id script).ContextBlind where
  exec m h ctx ctx' text args := by
    rw [Capabilities.eq_of_offer_eq_some h]
    rfl
  query m h ctx ctx' text args := by
    rw [Capabilities.eq_of_offer_eq_some h]
    rfl
  prepare m h ctx ctx' text := by
    rw [Capabilities.eq_of_offer_eq_some h]
    rfl
  begin m h ctx ctx' opts := by
    rw [Capabilities.eq_of_offer_eq_some h]
    rfl
  ping m h ctx ctx' := by
    rw [Capabilities.eq_of_offer_eq_some h]
    rfl
  prepared text s answers := by
    rw [eq_of_answers alone answers]
    exact contextBlind_stmt
  preparedContext m h ctx text s answers := by
    rw [Capabilities.eq_of_offer_eq_some h] at answers
    rw [eq_of_answers alone answers]
    exact contextBlind_stmt

theorem contextBlind_connector (alone : Call.OnPart part) :
    (connector part id script).ContextBlind where
  connect _ _ := rfl
  connected ctx c answers := by
    rw [eq_of_answers alone answers]
    exact contextBlind_conn alone

theorem contextBlind_driver (alone : Call.OnPart part) : (driver part id script).ContextBlind where
  opened dsn c answers := by
    rw [eq_of_answers alone answers]
    exact contextBlind_conn alone
  connector m h dsn c answers := by
    rw [Capabilities.eq_of_offer_eq_some h] at answers
    split at answers
    · rw [eq_of_answers alone answers]
      exact contextBlind_connector alone
    · rw [Call.answers_pure answers]
      exact contextBlind_connector alone

end Scripted

namespace Embedded

variable {δ : Type} [Engine δ] {part : {α : Type} → Call (Databases δ) α → Call σ α} {id : BaseId}
  {system : DatabaseSystem}

theorem contextBlind_stmt (n : Nat) (text : String) (prepared : Prepared) :
    (stmt part id system n text prepared).ContextBlind where
  exec m h ctx ctx' args := by
    cases h
    rfl
  query m h ctx ctx' args := by
    cases h
    rfl

theorem contextBlind_of_prepared {n : Nat} {text : String} {s : BaseStmt σ}
    (h : (prepareStmt part id system n text).Answers (.ok s)) : s.ContextBlind := by
  obtain ⟨prepared, -, answered⟩ := Call.answers_bind h
  rw [Call.answers_pure answered]
  exact contextBlind_stmt n text prepared

theorem contextBlind_conn (n : Nat) : (conn part id system n).ContextBlind where
  exec m h ctx ctx' text args := by
    cases h
    rfl
  query m h ctx ctx' text args := by
    cases h
    rfl
  prepare m h ctx ctx' text := by
    cases h
    rfl
  begin m h ctx ctx' opts := by
    cases h
    rfl
  ping m h ctx ctx' := by
    cases h
    rfl
  prepared text s answers := contextBlind_of_prepared answers
  preparedContext m h ctx text s answers := by
    cases h
    exact contextBlind_of_prepared answers

theorem answers_of_refuseFirst {r : Result α} {call : α → Call σ β} {b : β}
    (h : (refuseFirst r call).Answers (.ok b)) : ∃ a, r = .ok a ∧ (call a).Answers (.ok b) := by
  cases r with
  | error err =>
    obtain ⟨s, answered⟩ := h
    cases answered
  | ok a => exact ⟨a, rfl, h⟩

theorem contextBlind_of_connected {source : Source} {c : BaseConn σ}
    (h : (connect part id system source).Answers (.ok c)) : c.ContextBlind := by
  obtain ⟨_, -, connected⟩ := answers_of_refuseFirst h
  obtain ⟨n, -, answered⟩ := Call.answers_bind connected
  rw [Call.answers_pure answered]
  exact contextBlind_conn n

theorem contextBlind_driver : (driver part id system).ContextBlind where
  opened dsn c answers := by
    obtain ⟨source, -, connected⟩ := answers_of_refuseFirst answers
    exact contextBlind_of_connected connected
  connector m h dsn c answers := by
    cases h
    obtain ⟨source, -, answered⟩ := answers_of_refuseFirst answers
    rw [Call.answers_pure answered]
    exact ⟨fun _ _ => rfl, fun _ _ => contextBlind_of_connected⟩

end Embedded

namespace Bench

theorem onPart_onFaults : Call.OnPart onFaults := fun _ _ ⟨b, answered⟩ => ⟨b.faults, answered⟩

theorem contextBlind_scripted (id : BaseId) (script : Scripted.Script) :
    (scripted id script).ContextBlind := Scripted.contextBlind_driver onPart_onFaults

theorem contextBlind_embedded (id : BaseId) (system : DatabaseSystem) :
    (embedded id system).ContextBlind := Embedded.contextBlind_driver

end Bench
end DriverTelemetry
