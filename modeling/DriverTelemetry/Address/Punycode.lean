/-!
# Texts of all scripts as letters and digits

A label without ASCII characters of its own is encoded by letters and digits: the ASCII characters
come first, and then, in ascending order, the others, each as the distance from the one before it in
a count over all characters and all positions. A distance is written with digits of a varying
weight, the least significant first.
-/
namespace DriverTelemetry.Address.Punycode

def base : Nat := 36

def digit? (c : Char) : Option Nat :=
  if c.isLower then some (c.toNat - 97)
  else if c.isUpper then some (c.toNat - 65)
  else if c.isDigit then some (c.toNat - 22)
  else none

/-- From which value on a digit is followed by another. -/
def threshold (position bias : Nat) : Nat :=
  if position ≤ bias then 1 else if bias + 26 ≤ position then 26 else position - bias

/-- Divides until the rest is small, and counts. -/
def shrink (delta : Nat) : Nat × Nat :=
  if 455 < delta then
    let r := shrink (delta / 35)
    (r.1, r.2 + base)
  else (delta, 0)
  termination_by delta
  decreasing_by omega

/-- How the weights of the next distance depend on the present one. -/
def adapt (delta count : Nat) (first : Bool) : Nat :=
  let delta := if first then delta / 700 else delta / 2
  let (rest, steps) := shrink (delta + delta / count)
  steps + base * rest / (rest + 38)

def greatest : Nat := Nat.pow 2 32 - 1

/-- A distance that is read digit by digit, and the rest. -/
def distance? (bias : Nat) : List Char → Nat → Nat → Nat → Option (Nat × List Char)
  | [], _, _, _ => none
  | c :: cs, position, weight, sum => do
    let d ← digit? c
    let sum := sum + d * weight
    if greatest < sum then none
    else
      let t := threshold position bias
      if d < t then some (sum, cs)
      else distance? bias cs (position + base) (weight * (base - t)) sum

/-- Inserts what the distances tell, from a character and a position on. -/
def insertAll : Nat → List Char → Nat → Nat → Nat → Bool → List Char → Option (List Char)
  | _, [], _, _, _, _, found => some found
  | 0, _, _, _, _, _, _ => none
  | bound + 1, cs, code, position, bias, first, found => do
    let (delta, rest) ← distance? bias cs base 1 0
    let count := found.length + 1
    let code := code + (position + delta) / count
    let position := (position + delta) % count
    if code.isValidChar then
      let found := found.take position ++ Char.ofNat code :: found.drop position
      insertAll bound rest code (position + 1) (adapt delta count first) false found
    else none

/-- The text that is encoded. Its ASCII characters stand before the last hyphen. -/
def decode? (cs : List Char) : Option (List Char) :=
  let tail := (cs.reverse.takeWhile fun c => c ≠ '-').reverse
  let basic := cs.take (cs.length - tail.length - 1)
  if tail.isEmpty || !cs.all (fun c => c.toNat < 0x80) then none
  else insertAll tail.length tail 128 0 72 true basic

end DriverTelemetry.Address.Punycode
