import DriverTelemetry.Settings.Yaml
import DriverTelemetry.Settings.Yaml.Place

/-!
# Scalars over several lines

The texts of plain and quoted scalars. A scalar consists of pieces without blanks and of the gaps
between them. A gap within a line is its blanks; a gap with line breaks is folded: a single break is
one blank, and of several all but the first stay.
-/
namespace DriverTelemetry.Settings.Yaml

/-- What lies between two pieces: the blanks before any break, whether there is a break, whether the
first break counts, and how many more there are. -/
structure Gap where
  blanks : List Char
  broken : Bool
  counted : Bool
  further : Nat

namespace Gap

def empty : Gap := ⟨[], false, false, 0⟩

def escaped : Gap := ⟨[], true, false, 0⟩

def addBlank (g : Gap) (c : Char) : Gap :=
  if g.broken then g else { g with blanks := g.blanks ++ [c] }

def addBreak (g : Gap) : Gap :=
  if g.broken then { g with further := g.further + 1 }
  else { g with broken := true, counted := true }

/-- The gap with its latest break taken for its first. -/
def recount (g : Gap) : Gap := { g with counted := true }

def text (g : Gap) : List Char :=
  if !g.broken then g.blanks
  else if g.counted && g.further == 0 then [' ']
  else List.replicate g.further '\n'

end Gap

/-- What a line with a tab before the required column may still hold. -/
inductive TabbedLine where
  | no
  | blank
  | comment

/-- Passes over the blanks and breaks after a piece. Before the least column a tab may stand only in
a line without content. -/
def plainGap (least : Int) : TabbedLine → List Char → Nat → Gap → Option (List Char × Gap)
  | _, [], _, g => some ([], g)
  | .no, c :: cs, column, g =>
    if isBreak c then plainGap least .no cs 0 g.addBreak
    else if c = '\t' && g.broken && column < least then plainGap least .blank cs (column + 1) g
    else if isBlank c then plainGap least .no cs (column + 1) (g.addBlank c)
    else some (c :: cs, g)
  | .blank, c :: cs, column, g =>
    if isBreak c then plainGap least .no cs 0 g.addBreak
    else if isBlank c then plainGap least .blank cs (column + 1) g
    else if c = '#' then plainGap least .comment cs (column + 1) g
    else none
  | .comment, c :: cs, column, g =>
    if isBreak c then plainGap least .no cs 0 g.recount
    else plainGap least .comment cs (column + 1) g

def plainPiece (flow : Bool) : List Char → List Char
  | [] => []
  | c :: cs =>
    if isBlank c || isBreak c || flow && isFlowMark c || c = ':' && separates flow cs then []
    else c :: plainPiece flow cs

/-- A plain scalar that goes on after a gap, with what was read of it, and the place after it. In
block form its further lines stand at the least column or further in. -/
def plainFrom (flow : Bool) (least : Int) : Nat → Place → Gap → List Char →
    Option (List Char × Place)
  | 0, _, _, _ => none
  | bound + 1, p, g, text =>
    if p.atBeginMark || p.atEndMark || p.startsWith '#' then some (text, p)
    else if flow && p.startsWith '-' && startsFlowMark (p.rest.drop 1) then none
    else
      let piece := plainPiece flow p.rest
      let text := if piece.isEmpty then text else text ++ g.text ++ piece
      let q := p.skip piece.length
      if q.atBlank then do
        let (rest, g) ← plainGap least .no q.rest q.column Gap.empty
        let r := q.goTo rest
        if !flow && r.column < least then some (text, r) else plainFrom flow least bound r g text
      else some (text, q)

def plain? (flow : Bool) (least : Int) (p : Place) : Option (List Char × Place) :=
  plainFrom flow least (p.rest.length + 1) p Gap.empty []

/-- A piece of a quoted scalar, the rest after it, and whether an escaped break ended it. -/
structure QuotedPiece where
  text : List Char
  rest : List Char
  escaped : Bool

def QuotedPiece.cons (c : Char) (piece : QuotedPiece) : QuotedPiece :=
  { piece with text := c :: piece.text }

/-- Between single quotes a quote is written twice. -/
def singlePiece : List Char → QuotedPiece
  | [] => ⟨[], [], false⟩
  | '\'' :: '\'' :: cs => (singlePiece cs).cons '\''
  | c :: cs =>
    if isBlank c || isBreak c || c = '\'' then ⟨[], c :: cs, false⟩ else (singlePiece cs).cons c

def shortEscape? (c : Char) : Option Char :=
  match c with
  | '0' => some '\x00'
  | 'a' => some '\x07'
  | 'b' => some '\x08'
  | 't' => some '\t'
  | '\t' => some '\t'
  | 'n' => some '\n'
  | 'v' => some '\x0b'
  | 'f' => some '\x0c'
  | 'r' => some '\r'
  | 'e' => some '\x1b'
  | ' ' => some ' '
  | '"' => some '"'
  | '/' => some '/'
  | '\\' => some '\\'
  | 'N' => some '\u0085'
  | '_' => some '\u00a0'
  | 'L' => some '\u2028'
  | 'P' => some '\u2029'
  | _ => none

/-- How many hexadecimal digits follow the letter of an escape by number. -/
def escapeWidth? (c : Char) : Option Nat :=
  match c with
  | 'x' => some 2
  | 'u' => some 4
  | 'U' => some 8
  | _ => none

def hexChar? (ds : List Char) : Option Char :=
  match Scalar.ofBase? 16 ds 0 with
  | some n => if n.isValidChar then some (Char.ofNat n) else none
  | none => none

/-- Between double quotes a backslash escapes a character, or a break together with the blanks
after it. -/
def doublePiece : List Char → Option QuotedPiece
  | [] => some ⟨[], [], false⟩
  | '\\' :: c :: cs =>
    if isBreak c then some ⟨[], cs, true⟩
    else
      match escapeWidth? c with
      | some width =>
        match hexChar? (cs.take width) with
        | some d =>
          if width ≤ cs.length then (doublePiece (cs.drop width)).map (QuotedPiece.cons d)
          else none
        | none => none
      | none =>
        match shortEscape? c with
        | some d => (doublePiece cs).map (QuotedPiece.cons d)
        | none => none
  | c :: cs =>
    if isBlank c || isBreak c || c = '"' then some ⟨[], c :: cs, false⟩
    else (doublePiece cs).map (QuotedPiece.cons c)
  termination_by cs => cs.length
  decreasing_by
    all_goals simp only [List.length_cons, List.length_drop]
    all_goals omega

/-- Passes over the blanks and breaks after a piece. No tab may stand before the least column. -/
def quotedGap (least : Int) : List Char → Nat → Gap → Option (List Char × Gap)
  | [], _, g => some ([], g)
  | c :: cs, column, g =>
    if isBreak c then quotedGap least cs 0 g.addBreak
    else if c = '\t' && g.broken && column < least then none
    else if isBlank c then quotedGap least cs (column + 1) (g.addBlank c)
    else some (c :: cs, g)

/-- The rest of a quoted scalar, with what was read of it, and the place after its closing quote.
Every line of it stands at the least column or further in. -/
def quotedFrom (quote : Char) (least : Int) : Nat → Place → List Char →
    Option (List Char × Place)
  | 0, _, _ => none
  | bound + 1, p, text =>
    if p.rest.isEmpty || p.atBeginMark || p.atEndMark || p.column < least then none
    else do
      let piece ← if quote = '"' then doublePiece p.rest else some (singlePiece p.rest)
      let q := p.goTo piece.rest
      let text := text ++ piece.text
      if q.startsWith quote then some (text, q.next)
      else
        let (rest, g) ←
          quotedGap least q.rest q.column (if piece.escaped then Gap.escaped else Gap.empty)
        quotedFrom quote least bound (q.goTo rest) (text ++ g.text)

def quoted? (quote : Char) (least : Int) (p : Place) : Option (List Char × Place) :=
  quotedFrom quote least (p.rest.length + 1) p.next []

end DriverTelemetry.Settings.Yaml
