import DriverTelemetry.Settings.Yaml.Token

/-!
# Nodes of a document

The tree that tokens describe: scalars, lists, and tables whose names are nodes themselves. What is
left out is null. Readers return a node with the tokens after it, and recurse on a bound that the
number of tokens gives. A text is read as tokens, the tokens as nodes, and the nodes as values.
-/
namespace DriverTelemetry.Settings.Yaml

inductive Node where
  | scalar (a : Atom)
  | list (items : List Node)
  | table (entries : List (Node × Node))

namespace Node

def null : Node := .scalar .null

/-- Whether the entry of a list that would begin here is left out. -/
def omitsItem : List Token → Bool
  | .dash :: _ => true
  | .blockEnd :: _ => true
  | _ => false

/-- Whether the name or the value that would begin here is left out. -/
def omitsEntry : List Token → Bool
  | .name :: _ => true
  | .value :: _ => true
  | .blockEnd :: _ => true
  | _ => false

/-- Whether the value that would begin here, in brackets, is left out. -/
def omitsFlowValue : List Token → Bool
  | .comma :: _ => true
  | .flowListEnd :: _ => true
  | .flowTableEnd :: _ => true
  | _ => false

mutual

/-- A node. Blocks may begin in a block only, and a list without a margin of its own only in a
table. -/
def ofTokens? : Nat → Bool → Bool → List Token → Option (Node × List Token)
  | 0, _, _, _ => none
  | bound + 1, block, inTable, ts =>
    match ts with
    | .scalar a :: ts => some (.scalar a, ts)
    | .flowList :: ts => (flowItems bound true ts).map fun r => (.list r.1, r.2)
    | .flowTable :: ts => (flowEntries bound true ts).map fun r => (.table r.1, r.2)
    | .blockList :: ts =>
      if block then (blockItems bound ts).map fun r => (.list r.1, r.2) else none
    | .blockTable :: ts =>
      if block then (blockEntries bound ts).map fun r => (.table r.1, r.2) else none
    | .dash :: _ =>
      if inTable then (marginlessItems bound ts).map fun r => (.list r.1, r.2) else none
    | _ => none

def blockItems : Nat → List Token → Option (List Node × List Token)
  | 0, _ => none
  | bound + 1, ts =>
    match ts with
    | .blockEnd :: ts => some ([], ts)
    | .dash :: ts => do
      let (item, ts) ← if omitsItem ts then some (null, ts) else ofTokens? bound true false ts
      let (items, ts) ← blockItems bound ts
      some (item :: items, ts)
    | _ => none

/-- The entries of a list whose dashes stand at the margin of the table around it. -/
def marginlessItems : Nat → List Token → Option (List Node × List Token)
  | 0, _ => none
  | bound + 1, ts =>
    match ts with
    | .dash :: ts => do
      let (item, ts) ← if omitsItem ts || omitsEntry ts then some (null, ts)
        else ofTokens? bound true false ts
      let (items, ts) ← marginlessItems bound ts
      some (item :: items, ts)
    | ts => some ([], ts)

def blockEntries : Nat → List Token → Option (List (Node × Node) × List Token)
  | 0, _ => none
  | bound + 1, ts => do
    match ts with
    | .blockEnd :: ts => some ([], ts)
    | .name :: ts =>
      let (name, ts) ← if omitsEntry ts then some (null, ts) else ofTokens? bound true true ts
      let (value, ts) ← blockEntryValue bound ts
      let (entries, ts) ← blockEntries bound ts
      some ((name, value) :: entries, ts)
    | .value :: _ =>
      let (value, ts) ← blockEntryValue bound ts
      let (entries, ts) ← blockEntries bound ts
      some ((null, value) :: entries, ts)
    | _ => none

def blockEntryValue : Nat → List Token → Option (Node × List Token)
  | 0, _ => none
  | bound + 1, ts =>
    match ts with
    | .value :: ts => if omitsEntry ts then some (null, ts) else ofTokens? bound true true ts
    | ts => some (null, ts)

def flowItems : Nat → Bool → List Token → Option (List Node × List Token)
  | 0, _, _ => none
  | bound + 1, first, ts => do
    if ts.head? = some .flowListEnd then some ([], ts.drop 1)
    else
      let ts ← if first then some ts else if ts.head? = some .comma then some (ts.drop 1) else none
      match ts with
      | .flowListEnd :: ts => some ([], ts)
      | .name :: ts =>
        let (name, ts) ← ofTokens? bound false false ts
        let (value, ts) ← flowEntryValue bound ts
        let (items, ts) ← flowItems bound false ts
        some (.table [(name, value)] :: items, ts)
      | ts =>
        let (item, ts) ← ofTokens? bound false false ts
        let (items, ts) ← flowItems bound false ts
        some (item :: items, ts)

def flowEntries : Nat → Bool → List Token → Option (List (Node × Node) × List Token)
  | 0, _, _ => none
  | bound + 1, first, ts => do
    if ts.head? = some .flowTableEnd then some ([], ts.drop 1)
    else
      let ts ← if first then some ts else if ts.head? = some .comma then some (ts.drop 1) else none
      match ts with
      | .flowTableEnd :: ts => some ([], ts)
      | .name :: ts =>
        let (name, ts) ← ofTokens? bound false false ts
        let (value, ts) ← flowEntryValue bound ts
        let (entries, ts) ← flowEntries bound false ts
        some ((name, value) :: entries, ts)
      | .value :: _ =>
        let (value, ts) ← flowEntryValue bound ts
        let (entries, ts) ← flowEntries bound false ts
        some ((null, value) :: entries, ts)
      | ts =>
        let (name, ts) ← ofTokens? bound false false ts
        let (entries, ts) ← flowEntries bound false ts
        some ((name, null) :: entries, ts)

def flowEntryValue : Nat → List Token → Option (Node × List Token)
  | 0, _ => none
  | bound + 1, ts =>
    match ts with
    | .value :: ts => if omitsFlowValue ts then some (null, ts) else ofTokens? bound false false ts
    | ts => some (null, ts)

end

/-- The documents that tokens describe. `free` says whether a document may begin without a mark. -/
def documents (depth : Nat) : Nat → Bool → List Token → Option (List Node)
  | 0, _, _ => none
  | bound + 1, free, ts => do
    match ts.dropWhile fun t => t = .documentEnd with
    | [] => some []
    | t :: rest =>
      let (root, ts) ← if t = .documentBegin then
          match rest with
          | [] => some (null, rest)
          | .documentBegin :: _ => some (null, rest)
          | .documentEnd :: _ => some (null, rest)
          | _ => ofTokens? depth true false rest
        else if free then ofTokens? depth true false (t :: rest)
        else none
      let more ← documents depth bound (ts.head? = some .documentEnd) ts
      some (root :: more)

def documentsOf? (ts : List Token) : Option (List Node) :=
  documents (4 * ts.length + 4) (ts.length + 1) true ts

def distinct : List Atom → Bool
  | [] => true
  | a :: as => !as.contains a && distinct as

mutual

/-- The value of a node, if every name is a scalar, names differ, and numbers have values. -/
def toYaml? : Node → Option Yaml
  | .scalar a => a.scalar?.map Yaml.scalar
  | .list items => (itemsToYaml? items).map Yaml.list
  | .table entries => do
    let found ← entriesToYaml? entries
    if distinct (found.map Prod.fst) then
      let named ← found.mapM fun entry => entry.1.name?.map fun name => (name, entry.2)
      some (.table named)
    else none

def itemsToYaml? : List Node → Option (List Yaml)
  | [] => some []
  | item :: items => do
    let v ← toYaml? item
    let vs ← itemsToYaml? items
    some (v :: vs)

def entriesToYaml? : List (Node × Node) → Option (List (Atom × Yaml))
  | [] => some []
  | (.scalar name, value) :: entries => do
    let v ← toYaml? value
    let vs ← entriesToYaml? entries
    some ((name, v) :: vs)
  | _ => none

end

end Node

/-- A text with every line ended by a line feed, up to the first null character. -/
def normalized : List Char → List Char
  | [] => []
  | '\x00' :: _ => []
  | '\r' :: '\n' :: cs => '\n' :: normalized cs
  | '\r' :: cs => '\n' :: normalized cs
  | c :: cs => c :: normalized cs

/-- The documents of a text in plain form. Anchors, tags, block scalars and directives are outside
of it, and a text with any of them is not read. -/
def ofPlainText? (s : String) : Option (List Yaml) := do
  let tokens ← Token.ofText? (normalized s.toList)
  let nodes ← Node.documentsOf? tokens
  Node.itemsToYaml? nodes

end DriverTelemetry.Settings.Yaml
