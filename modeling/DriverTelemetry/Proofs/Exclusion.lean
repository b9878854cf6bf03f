import DriverTelemetry.Proofs.Layering
import DriverTelemetry.Proofs.Observation

/-!
# Operations that are left out by name

The settings of a hook may name the operations that it leaves out. Each name stands for the
operation that has it, exactly as it is written, or else for the unknown operation, which is never
reported. So a name that is none leaves nothing out, and only which names there are matters, not
their order or how often they are given. Naming operations never makes settings unreadable.
-/
namespace DriverTelemetry

namespace Operation

end Operation

namespace BaseCall

end BaseCall

namespace Settings

/-- What a section gives for a setting: its entry of that name or, where the section is a list, the
item in the place of that name. -/
def Setting.given (order : List String) (name : String) : Setting → Option Setting
  | .table _ entries => find? name entries
  | .list _ items => items[order.idxOf name]?
  | _ => none

def LogSettings.order : List String := ["enabled", "level", "log_arguments", "exclude"]

def TraceSettings.order : List String := ["enabled", "log_arguments", "exclude"]

def Fields.ofEntries (key : String) (entries : List (String × Setting)) : Fields :=
  ⟨fun name => (Setting.find? name entries).map fun v => ⟨key ++ "." ++ name, v⟩⟩

section

variable {key : String} {entries : List (String × Setting)} {α : Type}

/-- The entries but those that name operations to leave out. -/
def unnamed (entries : List (String × Setting)) : List (String × Setting) :=
  entries.filter fun e => e.1 ≠ "exclude"

end

end Settings
end DriverTelemetry
