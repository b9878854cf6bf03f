import DriverTelemetry.Driver.Base

/-!
# Fault plans

Which calls on a scripted driver fail, and with what. An error planned for one call counts before
the one planned for all calls.
-/
namespace DriverTelemetry.Scripted

structure FaultPlan where
  byCall : List (String × DriverError)
  anyCall : Option DriverError
  deriving DecidableEq

namespace FaultPlan

def none : FaultPlan := ⟨[], Option.none⟩

def fault? (plan : FaultPlan) (call : String) : Option DriverError :=
  match plan.byCall.find? fun entry => entry.1 = call with
  | some entry => some entry.2
  | Option.none => plan.anyCall

/-- Plans an error for every call, or takes that plan back. -/
def setAny (plan : FaultPlan) (err : Option DriverError) : FaultPlan := { plan with anyCall := err }

def setCall (plan : FaultPlan) (call : String) (err : Option DriverError) : FaultPlan :=
  let others := plan.byCall.filter fun entry => entry.1 ≠ call
  match err with
  | some err => { plan with byCall := (call, err) :: others }
  | Option.none => { plan with byCall := others }

end FaultPlan

/-- The fault plans by the number of the base driver. -/
abbrev FaultPlans := List FaultPlan

namespace FaultPlans

def answer {α : Type} (id : BaseId) (call : String) (a : α) : Call FaultPlans α := fun plans =>
  match plans[id]?.bind fun plan => plan.fault? call with
  | some err => (.error err, plans)
  | none => (.ok a, plans)

end FaultPlans
end DriverTelemetry.Scripted
