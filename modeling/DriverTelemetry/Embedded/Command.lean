/-!
# Commands

The statements that the embedded database understands. Anything else is a syntax error at its first
word, or at its second where the first could begin a command. In a text semicolons part them.
-/
namespace DriverTelemetry.Embedded

inductive Command where
  | createTable
  | insert | update | delete
  /-- An insert under the first id, which ends the open transaction where the id is taken. -/
  | insertFirst
  | selectAll | selectBar | selectCount | selectNone | selectLastId
  | echo (names : List String)
  /-- A command on a table that can never exist. -/
  | onMissing
  | begin | commit | rollback
  | broken (word : String)
  deriving DecidableEq

namespace Command

def words (text : String) : List String :=
  ((text.toList.splitOn ' ').filter fun word => !word.isEmpty).map String.ofList

/-- The word at which a statement that is no command goes wrong. -/
def wrongWord (text : String) : Command :=
  match words text with
  | [] => .broken text
  | [word] => .broken word
  | first :: second :: _ => .broken (if first = "BEGIN" then second else first)

def ofText (text : String) : Command :=
  if text = "CREATE TABLE foo (id INTEGER PRIMARY KEY, bar)" then .createTable
  else if text = "INSERT INTO foo (bar) VALUES (?)" then .insert
  else if text = "INSERT OR ROLLBACK INTO foo (id, bar) VALUES (1, ?)" then .insertFirst
  else if text = "UPDATE foo SET bar = ?" then .update
  else if text = "DELETE FROM foo" then .delete
  else if text = "SELECT id, bar FROM foo ORDER BY id" then .selectAll
  else if text = "SELECT bar FROM foo" then .selectBar
  else if text = "SELECT COUNT(*) FROM foo" then .selectCount
  else if text = "SELECT id, bar FROM foo WHERE 1 = 0" then .selectNone
  else if text = "SELECT last_insert_rowid()" then .selectLastId
  else if text = "SELECT ? AS a" then .echo ["a"]
  else if text = "SELECT ? AS a, ? AS b" then .echo ["a", "b"]
  else if text = "INSERT INTO missing VALUES (1)" then .onMissing
  else if text = "SELECT bar FROM missing" then .onMissing
  else if text = "BEGIN" then .begin
  else if text = "COMMIT" then .commit
  else if text = "ROLLBACK" then .rollback
  else wrongWord text

def inputs : Command → Nat
  | .insert | .insertFirst | .update => 1
  | .echo names => names.length
  | _ => 0

def columns : Command → List String
  | .selectAll => ["id", "bar"]
  | .selectBar => ["bar"]
  | .selectCount => ["COUNT(*)"]
  | .selectNone => ["id", "bar"]
  | .selectLastId => ["last_insert_rowid()"]
  | .echo names => names
  | _ => []

def isBlank (c : Char) : Bool := c = ' ' || c = '\t' || c = '\n' || c = '\x0c' || c = '\r'

def trimmed (cs : List Char) : List Char :=
  ((cs.dropWhile isBlank).reverse.dropWhile isBlank).reverse

/-- The statements of a text, without those that are empty. -/
def statements (text : String) : List String :=
  (((text.toList.splitOn ';').map trimmed).filter fun part => !part.isEmpty).map String.ofList

end Command
end DriverTelemetry.Embedded
