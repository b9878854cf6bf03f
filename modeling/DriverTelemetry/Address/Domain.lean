import DriverTelemetry.Address.Punycode
import DriverTelemetry.Text.Alphanumeric
import DriverTelemetry.Text.Lowercase
import DriverTelemetry.Text.Quoted

/-!
# Domain names

Labels between points. A name may be written in all scripts, with characters that count for
nothing and with full-width forms, which are taken away first. A label that announces an encoded
text has to be the encoding of one that could stand there.
-/
namespace DriverTelemetry.Address

/-- Characters beyond ASCII that no name may have: those whose plain forms hold a mark that is no
part of a name, and those that shape or order the text around them. -/
def improperRanges : Text.Ranges := #[
  (0xa8, 0xa8), (0xaf, 0xaf), (0xb4, 0xb4), (0xb8, 0xb8), (0x2d8, 0x2dd), (0x37a, 0x37a),
  (0x384, 0x385), (0x600, 0x605), (0x61c, 0x61c), (0x6dd, 0x6dd), (0x70f, 0x70f), (0x890, 0x891),
  (0x8e2, 0x8e2), (0x115f, 0x1160), (0x180e, 0x180e), (0x1fbd, 0x1fbd), (0x1fbf, 0x1fc1),
  (0x1fcd, 0x1fcf), (0x1fdd, 0x1fdf), (0x1fed, 0x1fee), (0x1ffd, 0x1ffe), (0x200c, 0x200f),
  (0x2017, 0x2017), (0x202a, 0x202e), (0x203e, 0x203e), (0x2047, 0x2049), (0x2061, 0x2063),
  (0x2066, 0x206f), (0x2100, 0x2101), (0x2105, 0x2106), (0x2a74, 0x2a74), (0x2ff0, 0x2ffb),
  (0x309b, 0x309c), (0x3164, 0x3164), (0xfc5e, 0xfc63), (0xfdfa, 0xfdfb), (0xfe13, 0xfe13),
  (0xfe16, 0xfe16), (0xfe47, 0xfe4c), (0xfe55, 0xfe56), (0xfe5f, 0xfe5f), (0xfe64, 0xfe65),
  (0xfe68, 0xfe68), (0xfe6a, 0xfe6b), (0xfe70, 0xfe70), (0xfe72, 0xfe72), (0xfe74, 0xfe74),
  (0xfe76, 0xfe76), (0xfe78, 0xfe78), (0xfe7a, 0xfe7a), (0xfe7c, 0xfe7c), (0xfe7e, 0xfe7e),
  (0xffa0, 0xffa0), (0xffe3, 0xffe3), (0xfff9, 0xfffd), (0x110bd, 0x110bd), (0x110cd, 0x110cd),
  (0x13430, 0x13438), (0x1bca0, 0x1bca3), (0x1d173, 0x1d17a), (0xe0001, 0xe0001),
  (0xe0020, 0xe007f)
  ]

def passedOverRanges : Text.Ranges := #[
  (0xad, 0xad), (0x34f, 0x34f), (0x180b, 0x180d), (0x180f, 0x180f), (0x200b, 0x200b),
  (0x2060, 0x2060), (0x2064, 0x2064), (0xfe00, 0xfe0f), (0xfeff, 0xfeff), (0xe0100, 0xe01ef)
  ]

/-- The full-width forms of ASCII, and how far each lies from what it is a form of. -/
def fullWidthRanges : Text.Ranges := #[(0xff01, 0xff5e)]

def fullWidthShift : Nat := 0xfee0

def ideographicPoints : List Char := ['\u3002', '\uff61']

def plainForm (c : Char) : List Char :=
  if passedOverRanges.holds c then []
  else if fullWidthRanges.holds c then [(Char.ofNat (c.toNat - fullWidthShift)).toLower]
  else if ideographicPoints.contains c then ['.']
  else [c.toLower]

/-- Signs that part addresses are no part of a name, nor are blanks and controls. -/
def isProperAscii (c : Char) : Bool :=
  0x20 < c.toNat && c.toNat < 0x7f && !("%#/:<>?@[\\]^|".toList.contains c)

/-- A character beyond ASCII that has a form of its own, or goes with one that has. -/
def isProper (c : Char) : Bool :=
  if c.toNat < 0x80 then isProperAscii c
  else
    !improperRanges.holds c &&
      (!Text.isUnprintable c || Text.isIgnorable c || Text.isAlphanumeric c)

def isMark (c : Char) : Bool := 0x80 ≤ c.toNat && Text.isUnprintable c && Text.isIgnorable c

def startsProperly (cs : List Char) : Bool :=
  match cs with
  | [] => true
  | c :: _ => !isMark c

def encodedStart : List Char := "xn--".toList

/-- A text that is encoded in a label: it needs the encoding, and is in lower case. -/
def isEncodable (cs : List Char) : Bool :=
  startsProperly cs && cs.all (fun c => isProper c && Text.lowerChar c == [c]) &&
    cs.any fun c => 0x80 ≤ c.toNat

def isProperLabel (label : List Char) : Bool :=
  if encodedStart.isPrefixOf label then
    match Punycode.decode? (label.drop encodedStart.length) with
    | some cs => isEncodable cs
    | none => false
  else startsProperly label

def domain? (cs : List Char) : Option (List Char) :=
  let name := cs.flatMap plainForm
  if name.all isProper && (name.splitOn '.').all isProperLabel then some name else none

end DriverTelemetry.Address
