import DriverTelemetry.Settings.Yaml.Folding

/-!
# Tokens of a document

The text of a document as a list of tokens. In block form the columns tell where a collection begins
and ends, and a colon tells that what stands before it was a name. So tokens are inserted before
others that were read already: a name is possible from where its text begins until a colon follows
or can follow no longer. Anchors, tags, block scalars, directives and marked names are not read.
-/
namespace DriverTelemetry.Settings.Yaml

inductive Token where
  | scalar (a : Atom)
  | blockList
  | blockTable
  | blockEnd
  | dash
  | flowList
  | flowListEnd
  | flowTable
  | flowTableEnd
  | comma
  | name
  | value
  | documentBegin
  | documentEnd
  deriving DecidableEq

/-- A column that what follows stands in or behind: that of a block collection, or one that only
holds until a collection begins. -/
structure Margin where
  column : Int
  block : Bool

/-- Where a name may have begun. A required one stands where only a name may stand. -/
structure Beginning where
  /-- How many tokens there were. -/
  tokens : Nat
  line : Nat
  column : Nat
  index : Nat
  required : Bool

/-- The state of reading tokens. Lists have their innermost or latest member first. -/
structure Reader where
  place : Place
  tokens : List Token
  margins : List Margin
  /-- The possible name at the present depth of brackets, and those outside it. -/
  beginning : Option Beginning
  outer : List (Option Beginning)
  /-- Whether a name may begin here, and where a value may follow its colon without a blank. -/
  nameAllowed : Bool
  adjacent : Nat
  /-- Whether names are those of a table in braces, and for each list in brackets whether a table
  without braces is open in it. -/
  inTable : Bool
  bareTables : List Bool

namespace Reader

def ofText (cs : List Char) : Reader := ⟨Place.ofText cs, [], [], none, [], true, 0, false, []⟩

def inFlow (r : Reader) : Bool := !r.outer.isEmpty

def greatestDepth : Nat := 255

def margin (r : Reader) : Int :=
  match r.margins with
  | [] => -1
  | m :: _ => m.column

def atBlockMargin (r : Reader) : Bool :=
  match r.margins with
  | [] => false
  | m :: _ => m.block

def push (r : Reader) (t : Token) : Reader := { r with tokens := t :: r.tokens }

def insertAfter (r : Reader) (n : Nat) (t : Token) : Reader :=
  let later := r.tokens.length - n
  { r with tokens := r.tokens.take later ++ t :: r.tokens.drop later }

/-- What follows in brackets stands behind the margin of the block around them. -/
def indent (r : Reader) : Reader :=
  if !r.inFlow && r.atBlockMargin then
    { r with margins := ⟨r.margin + 1, false⟩ :: r.margins }
  else r

def unindent (r : Reader) : Reader := { r with margins := r.margins.dropWhile fun m => !m.block }

/-- Opens a block collection in a column behind the margin, its token after the first `n`. -/
def openBlock (r : Reader) (column : Nat) (n : Nat) (t : Token) : Reader :=
  if r.inFlow then r
  else
    let r := if r.margin ≤ column && !r.atBlockMargin then { r with margins := r.margins.drop 1 }
      else r
    if r.margin < column then
      { r with margins := ⟨column, true⟩ :: r.margins }.insertAfter n t
    else r

/-- Closes the block collections whose margin lies behind a column. -/
def closeBlocks (r : Reader) (column : Int) : Reader :=
  if r.inFlow then r
  else
    let behind (m : Margin) : Bool := column < m.column
    let closed := (r.margins.takeWhile behind).countP Margin.block
    { r with
      margins := r.margins.dropWhile behind
      tokens := List.replicate closed .blockEnd ++ r.tokens }

def longestName : Nat := 1024

def dropStaleName (r : Reader) : Option Reader :=
  match r.beginning with
  | none => some r
  | some b =>
    if !r.inFlow && (b.line < r.place.line || b.index + longestName < r.place.index) then
      if b.required then none else some { r with beginning := none }
    else some r

def beginName (r : Reader) : Reader :=
  if r.nameAllowed then
    let required := !r.inFlow && r.margin == r.place.column && r.atBlockMargin
    { r with
      beginning :=
        some ⟨r.tokens.length, r.place.line, r.place.column, r.place.index, required⟩ }
  else r

def dropName (r : Reader) : Option Reader :=
  match r.beginning with
  | none => some r
  | some b => if b.required then none else some { r with beginning := none }

/-- Passes over blanks, breaks and comments. In a block no tab may stand before the margin in a line
with content. A name may begin in a new line. -/
def skipGap : Nat → Reader → Option Reader
  | 0, _ => none
  | bound + 1, r =>
    let p := r.place
    match p.rest with
    | [] => some r
    | c :: _ =>
      if c = '\t' && !r.margins.isEmpty && p.leading && p.column < r.margin then do
        let q ← p.pastBlanks?
        if q.atLineEnd then skipGap bound { r with place := q } else none
      else if isBlank c then skipGap bound { r with place := p.next }
      else if isBreak c then
        skipGap bound { r with place := p.next, nameAllowed := r.nameAllowed || !r.inFlow }
      else if c = '#' then skipGap bound { r with place := p.skipComment }
      else some r

def pastGap (r : Reader) : Option Reader := skipGap (r.place.rest.length + 1) r

/-- Passes over the character of a token and what follows it in its line. -/
def pastMark (r : Reader) : Option Reader := do
  let place ← r.place.next.pastBlanks?
  some { r with place := place }

/-- Closes the table without braces that is open in the innermost list. -/
def closeBareTable (r : Reader) : Reader :=
  match r.bareTables with
  | true :: outer => { r with inTable := false, bareTables := false :: outer }.push .flowTableEnd
  | _ => r

def openFlow (r : Reader) (t : Token) : Option Reader := do
  let r := r.beginName.indent
  if greatestDepth ≤ r.outer.length then none
  else
    let r := { r with beginning := none, outer := r.beginning :: r.outer, nameAllowed := true }
    let r := if t = .flowTable then { r with inTable := true }
      else { r with bareTables := false :: r.bareTables }
    let r ← r.pastMark
    some (r.push t)

def closeFlow (r : Reader) (t : Token) : Option Reader := do
  let r ← r.dropName
  match r.outer with
  | [] => none
  | beginning :: outer =>
    let r := { r with beginning := beginning, outer := outer, nameAllowed := false }
    let r := if t = .flowListEnd then
        let r := r.closeBareTable
        { r with bareTables := r.bareTables.drop 1 }
      else r
    let r ← r.pastMark
    let r := if r.inFlow then { r with adjacent := r.place.index } else r
    some (r.push t)

def comma (r : Reader) : Option Reader := do
  let r ← r.dropName
  let r ← { r with nameAllowed := true }.closeBareTable.pastMark
  some (r.push .comma)

/-- The dash of a list entry. After a tab no further dash may follow in its line. -/
def dash (r : Reader) : Option Reader := do
  if r.inFlow || !r.nameAllowed then none
  else
    let after := r.place.next
    let r ← (r.openBlock r.place.column r.tokens.length .blockList).pastMark
    if after.blanks.contains '\t' && r.place.startsWith '-' && startsBlank (r.place.rest.drop 1)
      then none
    else
      let r := if r.place.atChar isBreak || r.place.atChar isFlowMark then r.indent else r
      let r ← r.dropName
      some ({ r with nameAllowed := true }.push .dash)

/-- Letters, digits and two marks may not follow a colon and tabs. -/
def isWordChar (c : Char) : Bool := c.isAlphanum || c = '_' || c = '-'

/-- Passes over a colon. One that is followed by a tab is followed by a space before any word. -/
def pastColon (r : Reader) : Option Reader := do
  let after := r.place.next
  if after.startsWith '\t' then
    let place ← after.pastBlanks?
    if !after.blanks.contains ' ' && place.atChar isWordChar then none
    else some { r with place := place }
  else some { r with place := after }

/-- The colon between a name and its value. In a list in brackets it opens a table. -/
def value (r : Reader) : Option Reader := do
  let start := r.place
  let bare := !r.bareTables.isEmpty && !r.inTable
  let r := if bare then { r with bareTables := true :: r.bareTables.drop 1 } else r
  let r ← r.pastColon
  match r.beginning with
  | some b =>
    if bare && b.line < start.line then none
    else
      let r := r.insertAfter b.tokens .name
      let r := if bare then r.insertAfter b.tokens .flowTable else r
      let r := (r.openBlock b.column b.tokens .blockTable).indent
      some ({ r with beginning := none, nameAllowed := false }.push .value)
  | none =>
    let r := if bare then r.push .flowTable else r
    if r.inFlow then some ({ r.indent with nameAllowed := false }.push .value)
    else if r.nameAllowed then
      let r := (r.openBlock start.column r.tokens.length .blockTable).indent
      some (r.push .value)
    else none

/-- A plain scalar. A name may begin in the line after it. -/
def plainScalar (r : Reader) : Option Reader := do
  let r := { r.beginName with nameAllowed := false }.unindent
  if r.inFlow && (r.place.column : Int) ≤ r.margin then none
  else
    let (text, place) ← plain? r.inFlow (r.margin + 1) r.place
    let r := { r with place := place, nameAllowed := place.leading }
    some (r.push (.scalar (Atom.ofPlain text)))

def mayFollowQuoted (flow sameLine : Bool) (p : Place) : Bool :=
  p.atLineEnd || p.startsWith ':' && (flow || sameLine) ||
    flow && p.atChar fun c => c = ',' || c = ']' || c = '\x7d'

def quotedScalar (r : Reader) (quote : Char) : Option Reader := do
  let start := r.place
  let r := { r.beginName with nameAllowed := false }
  let (text, place) ← quoted? quote r.margin start
  let place ← place.pastBlanks?
  if mayFollowQuoted r.inFlow (start.line == place.line) place then
    let r ← { r with place := place }.pastGap
    some ({ r with adjacent := r.place.index }.push (.scalar (.text text)))
  else none

/-- The mark that begins or ends a document closes all blocks. -/
def documentMark (r : Reader) (t : Token) : Option Reader := do
  let r ← (r.closeBlocks (-1)).dropName
  let r := { r with nameAllowed := false, place := r.place.skip 3 }.push t
  if t = .documentEnd then
    let place ← r.place.pastBlanks?
    if place.atLineEnd then some { r with place := place } else none
  else some r

def isReserved (flow : Bool) (c : Char) : Bool :=
  "%@\x60*&!".toList.contains c || !flow && (c = '|' || c = '>')

def tokenAt (r : Reader) (c : Char) (after : List Char) : Option Reader :=
  let blankAfter := startsBlank after
  if c = '[' then r.openFlow .flowList
  else if c = '\x7b' then r.openFlow .flowTable
  else if c = ']' then r.closeFlow .flowListEnd
  else if c = '\x7d' then r.closeFlow .flowTableEnd
  else if c = ',' then r.comma
  else if c = '-' && blankAfter then r.dash
  else if c = '?' && blankAfter then none
  else if c = ':' && (separates r.inFlow after || r.inFlow && r.place.index == r.adjacent) then
    r.value
  else if isReserved r.inFlow c then none
  else if c = '\'' || c = '"' then r.quotedScalar c
  else r.plainScalar

def readAll : Nat → Reader → Option (List Token)
  | 0, _ => none
  | bound + 1, r => do
    let r ← r.pastGap
    let r ← r.dropStaleName
    let r := r.closeBlocks r.place.column
    match r.place.rest with
    | [] => do
      let r ← (r.closeBlocks (-1)).dropName
      some r.tokens.reverse
    | c :: after =>
      if r.place.atBeginMark then do readAll bound (← r.documentMark .documentBegin)
      else if r.place.atEndMark then do readAll bound (← r.documentMark .documentEnd)
      else if r.place.column < r.margin then none
      else do readAll bound (← r.tokenAt c after)

end Reader

/-- The tokens of a text, if it has no others. -/
def Token.ofText? (cs : List Char) : Option (List Token) :=
  (Reader.ofText cs).readAll (cs.length + 1)

end DriverTelemetry.Settings.Yaml
