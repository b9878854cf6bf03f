import DriverTelemetry.Double
import DriverTelemetry.Decimal.Digits

/-!
# Reading a decimal as a double

A numeral is an optional sign, digits with an optional point among them, and an optional power of
ten; it reads as the nearest double, a half going to the even neighbour. The words for infinity and
for no number are read in any case.
-/
namespace DriverTelemetry.Double

/-- `num / den` rounded to a natural number, a half to the even one. -/
def roundHalfEven (num den : Nat) : Nat :=
  let floor := num / den
  let rest := num % den
  if 2 * rest < den then floor
  else if den < 2 * rest then floor + 1
  else if floor % 2 = 0 then floor else floor + 1

/-- The exponent of the last place of the double nearest to `num / den`. -/
def unitExponent (num den : Nat) : Int :=
  let guess : Int := (Nat.log2 num : Int) - Nat.log2 den - 52
  let tooSmall := if 0 ≤ guess then num < den * Nat.pow 2 (52 + guess.toNat)
    else num * Nat.pow 2 (-guess).toNat < den * leadingUnit
  max (-1074) (if tooSmall then guess - 1 else guess)

/-- The double nearest to `num / den`, for a positive denominator. -/
def ofRatio (negative : Bool) (num den : Nat) : Double :=
  if num = 0 then ofFields negative 0 0
  else
    let q := unitExponent num den
    let m := if 0 ≤ q then roundHalfEven num (den * Nat.pow 2 q.toNat)
      else roundHalfEven (num * Nat.pow 2 (-q).toNat) den
    let m' := if m = 2 * leadingUnit then leadingUnit else m
    let q' := if m = 2 * leadingUnit then q + 1 else q
    if m' < leadingUnit then ofFields negative 0 m'
    else if q' + 1075 < 2047 then ofFields negative (q' + 1075).toNat (m' - leadingUnit)
    else infinity negative

/-- `digits · 10 ^ e`; powers of ten beyond every double are not computed. -/
def ofDecimal (negative : Bool) (digits : Nat) (e : Int) : Double :=
  if digits = 0 then ofFields negative 0 0
  else if e < -10000 - ((Decimal.natural digits).length : Int) then ofFields negative 0 0
  else if 400 < e then infinity negative
  else if 0 ≤ e then ofRatio negative (digits * Nat.pow 10 e.toNat) 1
  else ofRatio negative digits (Nat.pow 10 (-e).toNat)

/-- The power of ten after the letter that announces it. -/
def power? : List Char → Option Int
  | [] => some 0
  | c :: cs =>
    if c = 'e' ∨ c = 'E' then
      match cs with
      | '-' :: ds => (Decimal.ofDigits? ds).map fun n => -(n : Int)
      | '+' :: ds => (Decimal.ofDigits? ds).map Int.ofNat
      | ds => (Decimal.ofDigits? ds).map Int.ofNat
    else none

def unsigned? (negative : Bool) (cs : List Char) : Option Double :=
  let lower := cs.map Char.toLower
  if lower = ['i', 'n', 'f'] ∨ lower = ['i', 'n', 'f', 'i', 'n', 'i', 't', 'y'] then
    some (infinity negative)
  else if lower = ['n', 'a', 'n'] then some nan
  else
    let whole := cs.takeWhile Char.isDigit
    let tail := cs.dropWhile Char.isDigit
    let places := match tail with
      | '.' :: rest => rest.takeWhile Char.isDigit
      | _ => []
    let tail := match tail with
      | '.' :: rest => rest.dropWhile Char.isDigit
      | _ => tail
    match Decimal.ofDigits? (whole ++ places), power? tail with
    | some digits, some e => some (ofDecimal negative digits (e - places.length))
    | _, _ => none

def ofText? : List Char → Option Double
  | '-' :: cs => unsigned? true cs
  | '+' :: cs => unsigned? false cs
  | cs => unsigned? false cs

end DriverTelemetry.Double
