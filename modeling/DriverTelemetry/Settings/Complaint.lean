import DriverTelemetry.Settings.Setting
import DriverTelemetry.Text.Quoted

/-!
# Complaints about settings

Why settings could not be loaded.
-/
namespace DriverTelemetry.Settings

inductive Found where
  | bool (b : Bool)
  | int (i : Int64)
  | float (x : Double)
  | text (s : String)
  | null
  | list
  | table
  deriving DecidableEq

namespace Found

/-- A finite number shows a point also where it is whole. -/
def floatText (x : Double) : String :=
  let digits := x.render
  if x.isNaN || x.isInfinite || digits.contains '.' then String.ofList digits
  else String.ofList (digits ++ ['.', '0'])

def display : Found → String
  | .bool b => "boolean `" ++ (Scalar.bool b).asText ++ "`"
  | .int i => "integer `" ++ (Scalar.int i).asText ++ "`"
  | .float x => "floating point `" ++ floatText x ++ "`"
  | .text s => "string " ++ Text.quoted s
  | .null => "unit value"
  | .list => "sequence"
  | .table => "map"

def ofSetting : Setting → Found
  | .scalar _ .null => .null
  | .scalar _ (.bool b) => .bool b
  | .scalar _ (.int i) => .int i
  | .scalar _ (.float x) => .float x
  | .scalar _ (.text s) => .text s
  | .list _ _ => .list
  | .table _ _ => .table

end Found

inductive Complaint where
  /-- A source is no single table. -/
  | malformed
  | missingFile (name : String)
  /-- A value of a wrong sort, with the name of its setting and its source. -/
  | wrongValue (found : Found) (expected key : String) (source : Option String)
  /-- A value of a wrong sort where several sorts would do. -/
  | wrongSort (found : Found) (expected : String)
  | unknownVariant (type name : String)
  | noVariant (type : String)
  deriving DecidableEq

namespace Complaint

def display : Complaint → String
  | .malformed => ""
  | .missingFile name => "configuration file \"" ++ name ++ "\" not found"
  | .wrongValue found expected key source =>
    let origin := match source with
      | some name => " in " ++ name
      | none => ""
    "invalid type: " ++ found.display ++ ", expected " ++ expected ++ " for key `" ++ key ++ "`"
      ++ origin
  | .wrongSort found expected => "invalid type: " ++ found.display ++ ", expected " ++ expected
  | .unknownVariant type name =>
    "enum " ++ type ++ " does not have variant constructor " ++ name
  | .noVariant type =>
    "value of enum " ++ type
      ++ " should be represented by either string or table with exactly one key"

end Complaint
end DriverTelemetry.Settings
