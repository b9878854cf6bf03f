/-!
# Ranges of characters

A set of characters as the ranges of their numbers; and with it white space, the characters of all
scripts that only part others, with the line breaks among them.
-/
namespace DriverTelemetry.Text

/-- Inclusive ranges of code points, in ascending order. -/
abbrev Ranges := Array (Nat × Nat)

def Ranges.holds (ranges : Ranges) (c : Char) : Bool :=
  ranges.any fun range => range.1 ≤ c.toNat ∧ c.toNat ≤ range.2

def spaceRanges : Ranges := #[
  (0x9, 0xd), (0x20, 0x20), (0x85, 0x85), (0xa0, 0xa0), (0x1680, 0x1680), (0x2000, 0x200a),
  (0x2028, 0x2029), (0x202f, 0x202f), (0x205f, 0x205f), (0x3000, 0x3000)
  ]

def isSpace (c : Char) : Bool := spaceRanges.holds c

/-- A text without the white space around it. -/
def trimmed (cs : List Char) : List Char :=
  ((cs.dropWhile isSpace).reverse.dropWhile isSpace).reverse

end DriverTelemetry.Text
