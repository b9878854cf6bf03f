import DriverTelemetry.Configuration
import DriverTelemetry.Settings.Complaint

/-!
# The settings of the hooks

Each hook has a section of settings, each setting a default. A section is a table, or a list of the
settings in their order; names it does not know are passed over. Truth values and texts are read
from more sorts of values than their own.
-/
namespace DriverTelemetry.Settings

structure LogSettings where
  enabled : Bool
  level : Level
  logArguments : Bool
  exclude : List Operation
  deriving DecidableEq

structure TraceSettings where
  enabled : Bool
  logArguments : Bool
  exclude : List Operation
  deriving DecidableEq

structure HookSettings where
  log : LogSettings
  trace : TraceSettings
  deriving DecidableEq

namespace LogSettings

def standard : LogSettings := ⟨true, .info, false, []⟩

def hook (s : LogSettings) : LogHook := ⟨s.level, s.logArguments, s.exclude⟩

end LogSettings

namespace TraceSettings

def standard : TraceSettings := ⟨true, false, []⟩

def hook (s : TraceSettings) : TraceHook := ⟨"sqlhooks", s.logArguments, s.exclude⟩

end TraceSettings

namespace HookSettings

def standard : HookSettings := ⟨LogSettings.standard, TraceSettings.standard⟩

def hooks (s : HookSettings) : List Hook :=
  (if s.trace.enabled then [.trace s.trace.hook] else [])
    ++ if s.log.enabled then [.log s.log.hook] else []

end HookSettings

/-- A value under the name that complaints about it give. -/
structure Named where
  key : String
  value : Setting

namespace Named

def wrongValue (n : Named) (found : Found) (expected : String) : Complaint :=
  .wrongValue found expected n.key n.value.source?

def toBool (n : Named) : Except Complaint Bool :=
  match n.value with
  | .scalar _ (.bool b) => .ok b
  | .scalar _ (.int i) => .ok (i ≠ 0)
  | .scalar _ (.float x) => .ok (!x.isZero)
  | .scalar _ (.text s) =>
    let lower := Text.lowercase s
    if lower = "1" ∨ lower = "true" ∨ lower = "on" ∨ lower = "yes" then .ok true
    else if lower = "0" ∨ lower = "false" ∨ lower = "off" ∨ lower = "no" then .ok false
    else .error (n.wrongValue (.text lower) "a boolean")
  | v => .error (n.wrongValue (Found.ofSetting v) "a boolean")

def toText (n : Named) : Except Complaint String :=
  match n.value with
  | .scalar _ .null => .error (n.wrongValue .null "a string")
  | .scalar _ s => .ok s.asText
  | v => .error (n.wrongValue (Found.ofSetting v) "a string")

def levelNamed (name : String) : Except Complaint Level :=
  match Level.all.find? fun l => l.name = Text.lowercase name with
  | some level => .ok level
  | none => .error (.unknownVariant "LogLevel" name)

/-- A level is a name, or a table whose only entry has that name. -/
def toLevel (n : Named) : Except Complaint Level :=
  match n.value with
  | .scalar _ (.text s) => levelNamed s
  | .table _ [(name, _)] => levelNamed name
  | _ => .error (.noVariant "LogLevel")

def itemsFrom (key : String) (i : Nat) : List Setting → List Named
  | [] => []
  | v :: vs => ⟨key ++ "[" ++ toString i ++ "]", v⟩ :: itemsFrom key (i + 1) vs

/-- A name that is no operation's is kept as the unknown operation. -/
def toOperations (n : Named) : Except Complaint (List Operation) :=
  match n.value with
  | .list _ items => (itemsFrom n.key 0 items).mapM fun item => item.toText.map Operation.ofName
  | v => .error (.wrongSort (Found.ofSetting v) "a sequence")

end Named

structure Fields where
  find? : String → Option Named

namespace Fields

/-- The fields of a section; in a list they follow the order of `names`. -/
def ofSection (key expected : String) (names : List String) : Setting → Except Complaint Fields
  | .table _ entries =>
    .ok ⟨fun name => (Setting.find? name entries).map fun v => ⟨key ++ "." ++ name, v⟩⟩
  | .list _ items =>
    .ok ⟨fun name => (Named.itemsFrom key 0 items)[names.idxOf name]?⟩
  | v => .error (.wrongSort (Found.ofSetting v) expected)

def read {α : Type} (f : Fields) (name : String) (read : Named → Except Complaint α)
    (default : α) : Except Complaint α :=
  match f.find? name with
  | some n => read n
  | none => .ok default

end Fields

def LogSettings.ofSection (s : Setting) : Except Complaint LogSettings := do
  let f ← Fields.ofSection "log" "struct LogHookConfig"
    ["enabled", "level", "log_arguments", "exclude"] s
  let enabled ← f.read "enabled" Named.toBool standard.enabled
  let level ← f.read "level" Named.toLevel standard.level
  let logArguments ← f.read "log_arguments" Named.toBool standard.logArguments
  let exclude ← f.read "exclude" Named.toOperations standard.exclude
  return ⟨enabled, level, logArguments, exclude⟩

def TraceSettings.ofSection (s : Setting) : Except Complaint TraceSettings := do
  let f ← Fields.ofSection "trace" "struct TraceHookConfig"
    ["enabled", "log_arguments", "exclude"] s
  let enabled ← f.read "enabled" Named.toBool standard.enabled
  let logArguments ← f.read "log_arguments" Named.toBool standard.logArguments
  let exclude ← f.read "exclude" Named.toOperations standard.exclude
  return ⟨enabled, logArguments, exclude⟩

/-- The settings of all hooks; a section that is absent has its defaults. -/
def HookSettings.ofRoot (root : Setting) : Except Complaint HookSettings := do
  let log ← match root.get? "log" with
    | some s => LogSettings.ofSection s
    | none => .ok LogSettings.standard
  let trace ← match root.get? "trace" with
    | some s => TraceSettings.ofSection s
    | none => .ok TraceSettings.standard
  return ⟨log, trace⟩

end DriverTelemetry.Settings
