/-!
# Places in a document

A place is what is left of the text, together with where that stands: its line, its column, how many
characters came before it, and whether only blanks stand before it in its line. Lines end with line
feeds.
-/
namespace DriverTelemetry.Settings.Yaml

def isBlank (c : Char) : Bool := c = ' ' || c = '\t'

def isBreak (c : Char) : Bool := c = '\n'

/-- The characters that have a meaning of their own between brackets. -/
def isFlowMark (c : Char) : Bool := c = ',' || c = '[' || c = ']' || c = '\x7b' || c = '\x7d'

/-- Whether a text starts with a blank or a break, or is at its end. -/
def startsBlank : List Char → Bool
  | [] => true
  | c :: _ => isBlank c || isBreak c

def startsFlowMark : List Char → Bool
  | [] => false
  | c :: _ => isFlowMark c

/-- Whether a colon before the given text separates a name from its value. -/
def separates (flow : Bool) (cs : List Char) : Bool := startsBlank cs || flow && startsFlowMark cs

structure Place where
  rest : List Char
  line : Nat
  column : Nat
  index : Nat
  leading : Bool

namespace Place

def ofText (cs : List Char) : Place := ⟨cs, 0, 0, 0, true⟩

def next (p : Place) : Place :=
  match p.rest with
  | [] => p
  | c :: cs =>
    if isBreak c then ⟨cs, p.line + 1, 0, p.index + 1, true⟩
    else ⟨cs, p.line, p.column + 1, p.index + 1, p.leading && isBlank c⟩

def skip : Nat → Place → Place
  | 0, p => p
  | n + 1, p => skip n p.next

def goTo (p : Place) (rest : List Char) : Place := p.skip (p.rest.length - rest.length)

def startsWith (p : Place) (c : Char) : Bool := p.rest.head? = some c

def atLineEnd (p : Place) : Bool :=
  match p.rest with
  | [] => true
  | c :: _ => isBreak c

/-- At a blank or a break, but not at the end of the text. -/
def atBlank (p : Place) : Bool := !p.rest.isEmpty && startsBlank p.rest

/-- At three marks of a kind that stand alone at the start of a line. -/
def atMark (p : Place) (mark : Char) : Bool :=
  p.column == 0 && p.rest.take 3 == [mark, mark, mark] && startsBlank (p.rest.drop 3)

def atBeginMark (p : Place) : Bool := p.atMark '-'

def atEndMark (p : Place) : Bool := p.atMark '.'

def skipComment (p : Place) : Place := p.goTo (p.rest.dropWhile fun c => !isBreak c)

def blanks (p : Place) : List Char := p.rest.takeWhile isBlank

/-- Passes over blanks and then a comment, which has to follow a blank. -/
def pastBlanks? (p : Place) : Option Place :=
  let q := p.skip p.blanks.length
  if q.startsWith '#' then
    if p.blanks.isEmpty then none else some q.skipComment
  else some q

def atChar (p : Place) (test : Char → Bool) : Bool :=
  match p.rest with
  | [] => false
  | c :: _ => test c

end Place
end DriverTelemetry.Settings.Yaml
