import DriverTelemetry.Embedded.Wire

/-!
# Database engines

A text holds statements. An engine compiles a statement against the state of its database, and runs
it. A database connection runs the statements of a text in turn, up to the first that fails, and
compiles each when its turn comes. Of the texts that it was given last it remembers what compiling
their statements told: such a statement goes on to have the inputs and columns it had when it was
compiled, whatever has become of the database, while running it is always up to the engine.
-/
namespace DriverTelemetry.Embedded

structure Answer where
  rows : List (List Wire)
  /-- How many rows the last change touched. -/
  changes : Nat
  deriving DecidableEq

/-- What compiling tells of a statement, and preparing of all statements of a text together. -/
structure Prepared where
  inputs : Nat
  /-- How many of the inputs have no number of their own, and take the next argument each. -/
  unnumbered : Nat
  columns : List String
  deriving DecidableEq

/-- The inputs of all statements, and the columns of the first that has any. -/
def Prepared.ofAll (told : List Prepared) : Prepared where
  inputs := told.foldr (fun m n => m.inputs + n) 0
  unnumbered := told.foldr (fun m n => m.unnumbered + n) 0
  columns := ((told.map columns).find? fun names => !names.isEmpty).getD []

/-- The arguments of a text, of which the statements before have used so many. -/
structure Supply where
  args : List Wire
  used : Nat

/-- What is left of the arguments after a statement. -/
def Supply.past (s : Supply) (m : Prepared) : Supply := { s with used := s.used + m.unnumbered }

/-- An engine by the states of its databases. -/
class Engine (δ : Type) where
  empty : δ
  /-- The statements that a text holds, in their order. -/
  statements : String → List String
  compile : δ → String → Result Prepared
  /-- Runs a statement of which compiling has told this, now or some time before. -/
  perform : δ → String → Prepared → Supply → Result Answer × δ
  lastInsertId : δ → Int64

/-- What running a text answers: all rows of all its statements, each with the columns of its own
statement, and the sum of the changes that its statements tell. -/
structure Fetched where
  rows : List (List String × List Wire)
  changes : Nat
  deriving DecidableEq

namespace Fetched

def nothing : Fetched := ⟨[], 0⟩

def andLater (m : Prepared) (a : Answer) (later : Fetched) : Fetched where
  rows := a.rows.map (fun row => (m.columns, row)) ++ later.rows
  changes := a.changes + later.changes

end Fetched

/-- What comes of running a text: what has been told of its statements so far, the answer, and the
database as it is left. -/
structure Ran (δ : Type) where
  told : List Prepared
  answer : Result Fetched
  left : δ

namespace Engine

variable {δ : Type} [Engine δ]

/-- What was told of a statement before, or else what compiling it tells now. -/
def tell (d : δ) (statement : String) : Option Prepared → Result Prepared
  | some m => .ok m
  | none => compile d statement

/-- Compiles the statements of which nothing was told before, up to the first that does not
compile, and gives all that has been told. -/
def compileAll (d : δ) : List String → List Prepared → List Prepared × Result Unit
  | [], _ => ([], .ok ())
  | statement :: statements, told =>
    match tell d statement told.head? with
    | .error err => (told, .error err)
    | .ok m =>
      let (later, r) := compileAll d statements told.tail
      (m :: later, r)

/-- Runs statements in turn, up to the first that fails. -/
def runAll : List String → List Prepared → Supply → δ → Ran δ
  | [], _, _, d => ⟨[], .ok .nothing, d⟩
  | statement :: statements, told, supply, d =>
    match tell d statement told.head? with
    | .error err => ⟨told, .error err, d⟩
    | .ok m =>
      match perform d statement m supply with
      | (.error err, d) => ⟨m :: told.tail, .error err, d⟩
      | (.ok answer, d) =>
        let later := runAll statements told.tail (supply.past m) d
        ⟨m :: later.told, later.answer.map (.andLater m answer), later.left⟩

/-- Runs a text without arguments of which nothing was told before. -/
def execute (d : δ) (text : String) : Result Fetched × δ :=
  let ran := runAll (statements (δ := δ) text) [] ⟨[], 0⟩ d
  (ran.answer, ran.left)

end Engine

/-- A database and the memory of its connection. -/
structure Cached (δ : Type) where
  inside : δ
  /-- The texts that were used last, the latest first, each with what was told of its statements. -/
  memory : List (String × List Prepared)
  deriving DecidableEq

namespace Cached

variable {δ : Type}

/-- How many texts a connection remembers. -/
def capacity : Nat := 100

def recalled (d : Cached δ) (text : String) : List Prepared := (d.memory.lookup text).getD []

/-- Remembers what has been told of a text, which is now the one that was used last. Of too many
texts the one that was not used for longest is forgotten. -/
def remember (d : Cached δ) (text : String) (told : List Prepared) : Cached δ :=
  { d with memory :=
    ((text, told) :: d.memory.filter fun entry => entry.1 != text).take capacity }

@[simp] theorem inside_remember (d : Cached δ) (text : String) (told : List Prepared) :
    (d.remember text told).inside = d.inside := rfl

variable [Engine δ]

def empty : Cached δ := ⟨Engine.empty, []⟩

def prepare (d : Cached δ) (text : String) : Result Prepared × Cached δ :=
  let (told, r) := Engine.compileAll d.inside (Engine.statements (δ := δ) text) (d.recalled text)
  (r.map fun _ => .ofAll told, d.remember text told)

def run (d : Cached δ) (text : String) (args : List Wire) : Result Fetched × Cached δ :=
  let ran := Engine.runAll (Engine.statements (δ := δ) text) (d.recalled text) ⟨args, 0⟩ d.inside
  (ran.answer, { d.remember text ran.told with inside := ran.left })

/-- Runs a text without arguments that is not remembered. -/
def execute (d : Cached δ) (text : String) : Result Fetched × Cached δ :=
  let (r, inside) := Engine.execute d.inside text
  (r, { d with inside })

def lastInsertId : String := "SELECT last_insert_rowid()"

/-- Reads the last insert id back, by a text that is remembered like any other. -/
def readBack (d : Cached δ) : Int64 × Cached δ :=
  (Engine.lastInsertId d.inside, (d.prepare lastInsertId).2)

@[simp] theorem inside_prepare (d : Cached δ) (text : String) :
    (d.prepare text).2.inside = d.inside := rfl

@[simp] theorem inside_readBack (d : Cached δ) : d.readBack.2.inside = d.inside := rfl

end Cached
end DriverTelemetry.Embedded
