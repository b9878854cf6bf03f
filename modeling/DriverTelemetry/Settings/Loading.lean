import DriverTelemetry.Settings.Layers
import DriverTelemetry.Settings.Yaml.Node

/-!
# Loading settings

Settings loaded from files that are listed with their texts, in plain YAML.
-/
namespace DriverTelemetry.Settings

/-- The files that there are, by paths from the present directory or from the root, and the
environment. -/
structure Surroundings where
  files : List (String × String)
  environment : List (String × String)

/-- A path as its steps, behind whether they start at the root. Neither an empty part nor a point is
a step. -/
def stepsOfPath (path : String) : Bool × List (List Char) :=
  (path.toList.head? = some '/',
    (path.toList.splitOn '/').filter fun part => part ≠ [] && part ≠ ['.'])

/-- The paths that a name may mean: the name itself, unless it ends in a slash or a point of its
own, and the name with one of two endings added. A name that ends by going up is a directory's. -/
def candidates (name : String) : List (Bool × List (List Char)) :=
  let (rooted, steps) := stepsOfPath name
  match steps.getLast? with
  | none => []
  | some ['.', '.'] => []
  | some file =>
    let ended := [".yaml", ".yml"].map fun ending =>
      (rooted, steps.dropLast ++ [file ++ ending.toList])
    if file.isSuffixOf name.toList then (rooted, steps) :: ended else ended

namespace Surroundings

def file? (s : Surroundings) (name : String) : Option SourceFile :=
  (candidates name).findSome? fun path =>
    (s.files.find? fun file => stepsOfPath file.1 = path).map fun file => ⟨file.1, file.2⟩

def sources (s : Surroundings) : Sources := ⟨s.file?, Yaml.ofPlainText?, s.environment⟩

end Surroundings

def HookSettings.load (s : Surroundings) (file : Option String) : Except Complaint HookSettings :=
  s.sources.load file

end DriverTelemetry.Settings
