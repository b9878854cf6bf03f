import DriverTelemetry.Settings.Yaml
import DriverTelemetry.Text.Lowercase

/-!
# Layered settings

A setting knows which source it came from, so that a complaint about it can say so. Sources are laid
over one another: a table is merged into what is there entry by entry, anything else replaces what
is there, and a table that results from merging comes from no single source. Names are merged in
lower case.
-/
namespace DriverTelemetry.Settings

inductive Setting where
  | scalar (source : Option String) (s : Scalar)
  | list (source : Option String) (items : List Setting)
  | table (source : Option String) (entries : List (String × Setting))

namespace Setting

def source? : Setting → Option String
  | .scalar source _ => source
  | .list source _ => source
  | .table source _ => source

/-- What a name is bound to in a table; the first binding counts. -/
def find? (name : String) : List (String × Setting) → Option Setting
  | [] => none
  | entry :: entries => if entry.1 = name then some entry.2 else find? name entries

/-- The entries with a name bound anew, in its place or at the end. -/
def bind (name : String) (value : Setting) : List (String × Setting) → List (String × Setting)
  | [] => [(name, value)]
  | entry :: entries =>
    if entry.1 = name then (name, value) :: entries else entry :: bind name value entries

mutual

/-- A document as a setting of its source. Of two entries of one name the later counts. -/
def ofYaml (source : String) : Yaml → Setting
  | .scalar s => .scalar (some source) s
  | .list items => .list (some source) (ofItems source items)
  | .table entries => .table (some source) (ofEntries source entries [])

def ofItems (source : String) : List Yaml → List Setting
  | [] => []
  | item :: items => ofYaml source item :: ofItems source items

/-- Binds the names of entries over those that are bound already. -/
def ofEntries (source : String) : List (String × Yaml) → List (String × Setting) →
    List (String × Setting)
  | [], found => found
  | (name, value) :: entries, found =>
    ofEntries source entries (bind name (ofYaml source value) found)

end

def entries : Setting → List (String × Setting)
  | .table _ entries => entries
  | _ => []

def get? (s : Setting) (name : String) : Option Setting := find? name s.entries

def emptyTable : Setting := .table none []

/-- A setting as a table with one name bound anew; what is no table is forgotten. -/
def set (root : Setting) (name : String) (value : Setting) : Setting :=
  match root with
  | .table source entries => .table source (bind name value entries)
  | _ => .table none [(name, value)]

mutual

/-- Lays a value over what a name, in lower case, is bound to. The entries of a table are laid over
one by one, so an empty table leaves what is there. -/
def put (name : String) (root : Setting) : Setting → Setting
  | .table _ entries =>
    let key := Text.lowercase name
    root.set key (putAll ((root.get? key).getD emptyTable) entries)
  | value => root.set (Text.lowercase name) value

def putAll (root : Setting) : List (String × Setting) → Setting
  | [] => root
  | (name, value) :: entries => putAll (put name root value) entries

end

end Setting
end DriverTelemetry.Settings
