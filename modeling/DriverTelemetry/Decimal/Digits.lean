/-!
# Decimal numerals

A natural number in decimal, with as many digits as it needs or with a fixed count of them, and
an integer with its sign.
-/
namespace DriverTelemetry.Decimal

def digitChar (d : Nat) : Char := Char.ofNat (48 + d % 10)

/-- The decimal digits of a number, most significant first, with no leading zero. -/
def natural (n : Nat) : List Char :=
  if n < 10 then [digitChar n] else natural (n / 10) ++ [digitChar n]
  termination_by n

/-- Exactly `width` digits, the least significant ones of the number. -/
def padded : Nat → Nat → List Char
  | 0, _ => []
  | width + 1, n => padded width (n / 10) ++ [digitChar n]

def integer (i : Int) : List Char :=
  if i < 0 then '-' :: natural i.natAbs else natural i.natAbs

/-- The value of a run of decimal digits, and nothing for any other text. -/
def ofDigits? (cs : List Char) : Option Nat :=
  if cs.isEmpty ∨ ¬ cs.all Char.isDigit then none
  else some (cs.foldl (fun n c => 10 * n + (c.toNat - 48)) 0)

/-- Reads an optional sign and digits; the value has to fit 64 bits. -/
def int64? (cs : List Char) : Option Int64 := do
  let value : Int ← match cs with
    | '-' :: ds => (ofDigits? ds).map fun n => -(n : Int)
    | '+' :: ds => (ofDigits? ds).map Int.ofNat
    | ds => (ofDigits? ds).map Int.ofNat
  if Int64.minValue.toInt ≤ value ∧ value ≤ Int64.maxValue.toInt then some (Int64.ofInt value)
  else none

end DriverTelemetry.Decimal
