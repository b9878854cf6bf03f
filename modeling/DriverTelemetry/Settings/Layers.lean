import DriverTelemetry.Settings.Path
import DriverTelemetry.Settings.Section

/-!
# Layers of settings

The sources of settings in their order: the default file, which may be absent, a file that the
caller names, a file that the environment names, and the environment itself. Each is laid over the
ones before it. Which file a name leads to and how its text is read is left open.
-/
namespace DriverTelemetry.Settings

/-- A file of settings, under the name that complaints give it. -/
structure SourceFile where
  name : String
  text : String

/-- What settings are loaded from: files by the names that lead to them, a reader of their texts,
which finds no documents in a malformed one, and variables. -/
structure Sources where
  find? : String → Option SourceFile
  documents? : String → Option (List Yaml)
  environment : List (String × String)

def Sources.lookup? (s : Sources) (name : String) : Option String :=
  (s.environment.find? fun entry => entry.1 = name).map Prod.snd

/-- What one source says: its top-level entries in order. -/
abbrev Layer := List (String × Setting)

/-- A file has to hold one table; one without any document is empty. -/
def Sources.layerOf (s : Sources) (file : SourceFile) : Except Complaint Layer :=
  match s.documents? file.text with
  | some [] => .ok []
  | some [.table entries] => .ok (Setting.ofEntries file.name entries [])
  | _ => .error .malformed

/-- A value from the environment: a truth value in any case, an integer, a number or a text. -/
def Scalar.ofVariable (text : String) : Scalar :=
  let lower := Text.lowercase text
  if lower = "true" then .bool true
  else if lower = "false" then .bool false
  else
    match Decimal.int64? text.toList with
    | some i => .int i
    | none =>
      match Double.ofText? text.toList with
      | some x => .float x
      | none => .text text

/-- The name of a variable as the name of a setting, each pair of underscores taken for a point. -/
def pointed : List Char → List Char
  | '_' :: '_' :: cs => '.' :: pointed cs
  | c :: cs => c :: pointed cs
  | [] => []

def variableStart : List Char := "sqlhooks__".toList

/-- The setting that a variable is, if its name starts as one does. -/
def variableSetting? (entry : String × String) : Option (String × Setting) :=
  let name := (Text.lowercase entry.1).toList
  if variableStart.isPrefixOf name then
    some (String.ofList (pointed (name.drop variableStart.length)),
      .scalar (some "the environment") (Scalar.ofVariable entry.2))
  else none

def Layer.ofEnvironment (environment : List (String × String)) : Layer :=
  environment.filterMap variableSetting?

def Layer.over (root : Setting) (layer : Layer) : Setting :=
  layer.foldl (fun root entry => Path.put entry.2 root (Path.ofText entry.1)) root

def defaultFile : String := "sqlhooks.yaml"

namespace Sources

/-- The layer of a file that has to exist. -/
def required (s : Sources) (name : String) : Except Complaint Layer :=
  match s.find? name with
  | some file => s.layerOf file
  | none => .error (.missingFile name)

/-- The layer of a file that may be absent. -/
def optional (s : Sources) (name : String) : Except Complaint Layer :=
  match s.find? name with
  | some file => s.layerOf file
  | none => .ok []

def layers (s : Sources) (file : Option String) : Except Complaint (List Layer) := do
  let standard ← s.optional defaultFile
  let given ← match file with
    | some name => s.required name
    | none => .ok []
  let fromVariable ← match s.lookup? "SQLHOOKS_CONFIG" with
    | some name => s.required name
    | none => .ok []
  return [standard, given, fromVariable, Layer.ofEnvironment s.environment]

def load (s : Sources) (file : Option String) : Except Complaint HookSettings := do
  let found ← s.layers file
  HookSettings.ofRoot (found.foldl Layer.over Setting.emptyTable)

end Sources
end DriverTelemetry.Settings
