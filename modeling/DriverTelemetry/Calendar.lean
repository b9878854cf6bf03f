import DriverTelemetry.Decimal.Digits

/-!
# The proleptic Gregorian calendar

Days are counted from 1 January 1970. A year of the computation begins in March, so the leap day is
its last day; 400 such years make an era of 146097 days.
-/
namespace DriverTelemetry

structure Date where
  year : Int
  month : Nat
  day : Nat
  deriving DecidableEq

namespace Date

def daysPerEra : Int := 146097

/-- Days from the start of the era of 1 March 0000 to 1 January 1970. -/
def epochOffset : Int := 719468

/-- The year of the era that holds a day of the era. -/
def yearOfEra (dayOfEra : Nat) : Nat :=
  (dayOfEra - dayOfEra / 1460 + dayOfEra / 36524 - dayOfEra / 146096) / 365

def daysBeforeYear (yearOfEra : Nat) : Nat :=
  365 * yearOfEra + yearOfEra / 4 - yearOfEra / 100

/-- The month of the year, counted from March as 0, that holds a day of the year. -/
def monthOfYear (dayOfYear : Nat) : Nat := (5 * dayOfYear + 2) / 153

def daysBeforeMonth (month : Nat) : Nat := (153 * month + 2) / 5

def ofDays (days : Int) : Date :=
  let shifted := days + epochOffset
  let era := shifted / daysPerEra
  let dayOfEra := (shifted % daysPerEra).toNat
  let year := yearOfEra dayOfEra
  let dayOfYear := dayOfEra - daysBeforeYear year
  let month := monthOfYear dayOfYear
  { year := (year : Int) + era * 400 + (if month < 10 then 0 else 1)
    month := if month < 10 then month + 3 else month - 9
    day := dayOfYear - daysBeforeMonth month + 1 }

/-- A year of at most four digits has exactly four; any other carries its sign. -/
def renderYear (year : Int) : List Char :=
  if 0 ≤ year ∧ year ≤ 9999 then Decimal.padded 4 year.toNat
  else
    let sign := if year < 0 then '-' else '+'
    let magnitude := year.natAbs
    sign :: (if magnitude < 10000 then Decimal.padded 4 magnitude else Decimal.natural magnitude)

def render (d : Date) : List Char :=
  renderYear d.year ++ '-' :: Decimal.padded 2 d.month ++ '-' :: Decimal.padded 2 d.day

end Date
end DriverTelemetry
