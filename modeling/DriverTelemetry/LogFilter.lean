import DriverTelemetry.LogFilter.Reading

/-!
# Log filters

Which records pass: the directives that can be decided ahead and those that have to be looked at
with every record, the more specific ones first. A directive replaces an earlier one about the same
records. A directive about fields without values is of both sorts. A filter without directives has
an empty text.
-/
namespace DriverTelemetry

structure LogFilter where
  statics : List Directive
  dynamics : List Directive

namespace LogFilter

def ofDirectives (ds : List Directive) : LogFilter where
  statics :=
    Directive.ranked ((ds.filter fun d => !d.isDynamic) ++
      ds.filter fun d => d.isDynamic && d.isStatic)
  dynamics := Directive.ranked (ds.filter Directive.isDynamic)

/-- Directives are separated by commas; one that is no directive spoils all. -/
def ofText? (s : String) : Option LogFilter :=
  (((s.toList.splitOn ',').filter fun cs => !cs.isEmpty).mapM Directive.ofText?).map ofDirectives

def standard : LogFilter := ofDirectives [⟨none, none, none, .info⟩]

def ofVariable (value : Option String) : LogFilter :=
  (value.bind ofText?).getD standard

def display (f : LogFilter) : String :=
  String.intercalate "," ((f.statics ++ f.dynamics).map Directive.display)

end LogFilter
end DriverTelemetry
