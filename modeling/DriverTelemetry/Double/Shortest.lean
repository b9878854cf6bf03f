import DriverTelemetry.Double
import DriverTelemetry.Decimal.Digits

/-!
# The shortest decimal that reads back

Every double is the nearest one to an interval of reals around it. Of the decimals in that interval
the ones with the fewest digits are shown, of these the nearest to the double, and of two equally
near ones the larger. All arithmetic is on natural numbers: the double, the ends of its interval
and the decimal grid are brought to one common denominator.
-/
namespace DriverTelemetry.Double

/-- `digits · 10 ^ exponent`. -/
structure Numeral where
  digits : Nat
  exponent : Int
  deriving DecidableEq

/-- A positive double, with the ends of its interval, in quarters of its unit in the last place. -/
structure Interval where
  low : Nat
  value : Nat
  high : Nat
  /-- Whether the ends themselves read back. -/
  closed : Bool

/-- Below a power of two the neighbours are twice as dense. -/
def interval (x : Double) : Interval where
  low := if x.fraction = 0 ∧ 1 < x.exponentField then 4 * x.significand - 1
    else 4 * x.significand - 2
  value := 4 * x.significand
  high := 4 * x.significand + 2
  closed := x.significand % 2 = 0

def Interval.holds (i : Interval) (low point high : Nat) : Bool :=
  if i.closed then low ≤ point ∧ point ≤ high else low < point ∧ point < high

/-- A power of the base as a fraction: its numerator and its denominator, of which one is 1. -/
def scale (base : Nat) (q : Int) : Nat × Nat := (Nat.pow base q.toNat, Nat.pow base (-q).toNat)

/-- The least `e` with `num / den < 10 ^ e`. -/
def decimalExponent (num den : Nat) : Int :=
  if den ≤ num then (Decimal.natural (num / den)).length
  else
    let ceiling := (den + num - 1) / num
    1 - ((Decimal.natural (ceiling - 1)).length : Int)

/-- The nearest point of the grid of multiples of `10 ^ k` that reads back, if there is one. -/
def nearestOnGrid (i : Interval) (twos : Nat × Nat) (k : Int) : Option Nat :=
  let tens := scale 10 k
  let unit := tens.1 * twos.2
  let scaled := fun n => n * twos.1 * tens.2
  let value := scaled i.value
  let holds := fun d => i.holds (scaled i.low) (d * unit) (scaled i.high)
  let below := value / unit
  let above := below + 1
  match holds below, holds above with
  | true, true => if value - below * unit < above * unit - value then some below else some above
  | true, false => some below
  | false, true => some above
  | false, false => none

/-- Seventeen digits always suffice, so the search ends before its fuel does. -/
def search (i : Interval) (twos : Nat × Nat) (e : Int) : Nat → Nat → Numeral
  | 0, n => ⟨i.value, e - n⟩
  | fuel + 1, n =>
    match nearestOnGrid i twos (e - n) with
    | some d => ⟨d, e - n⟩
    | none => search i twos e fuel (n + 1)

def shortest (x : Double) : Numeral :=
  let i := x.interval
  let twos := scale 2 (x.exponent - 2)
  search i twos (decimalExponent (i.value * twos.1) twos.2) 17 1

def stripZeros (d : Numeral) : Nat → Numeral
  | 0 => d
  | fuel + 1 =>
    if d.digits ≠ 0 ∧ d.digits % 10 = 0 then stripZeros ⟨d.digits / 10, d.exponent + 1⟩ fuel else d

def positional (d : Numeral) : List Char :=
  let ds := Decimal.natural d.digits
  if 0 ≤ d.exponent then ds ++ List.replicate d.exponent.toNat '0'
  else
    let places := (-d.exponent).toNat
    if places < ds.length then
      ds.take (ds.length - places) ++ '.' :: ds.drop (ds.length - places)
    else '0' :: '.' :: List.replicate (places - ds.length) '0' ++ ds

def render (x : Double) : List Char :=
  if x.isNaN then ['N', 'a', 'N']
  else
    let sign := if x.isNegative then ['-'] else []
    if x.isInfinite then sign ++ ['i', 'n', 'f']
    else if x.isZero then sign ++ ['0']
    else sign ++ positional (stripZeros x.shortest 17)

end DriverTelemetry.Double
