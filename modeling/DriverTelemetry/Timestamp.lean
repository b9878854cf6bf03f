import DriverTelemetry.Calendar

/-!
# Moments in time

A timestamp counts seconds from the start of 1970 and nanoseconds of that second. A leap second is
the last second of a minute with a thousand million more nanoseconds. The written form is that of
RFC 3339 in universal time, its fraction having none, three, six or nine digits, the fewest that
are exact.
-/
namespace DriverTelemetry

structure Timestamp where
  seconds : Int
  nanos : Nat
  seconds_lower : -8334601228800 ≤ seconds
  seconds_upper : seconds ≤ 8210266876799
  nanos_bound : nanos < 1000000000 ∨ nanos < 2000000000 ∧ seconds % 60 = 59
  deriving DecidableEq

namespace Timestamp

/-- Nothing outside the years that are counted, or where no leap second can be. -/
def ofUnix? (seconds : Int) (nanos : Nat) : Option Timestamp :=
  if h : -8334601228800 ≤ seconds ∧ seconds ≤ 8210266876799 ∧
      (nanos < 1000000000 ∨ nanos < 2000000000 ∧ seconds % 60 = 59) then
    some ⟨seconds, nanos, h.1, h.2.1, h.2.2⟩
  else none

def date (t : Timestamp) : Date := Date.ofDays (t.seconds / 86400)

def secondOfDay (t : Timestamp) : Nat := (t.seconds % 86400).toNat

def isLeap (t : Timestamp) : Bool := 1000000000 ≤ t.nanos

/-- The second of the minute as it is written, 60 for a leap second. -/
def second (t : Timestamp) : Nat := t.secondOfDay % 60 + if t.isLeap then 1 else 0

def nanosOfSecond (t : Timestamp) : Nat := t.nanos % 1000000000

def renderFraction (nanos : Nat) : List Char :=
  if nanos = 0 then []
  else if nanos % 1000000 = 0 then '.' :: Decimal.padded 3 (nanos / 1000000)
  else if nanos % 1000 = 0 then '.' :: Decimal.padded 6 (nanos / 1000)
  else '.' :: Decimal.padded 9 nanos

def render (t : Timestamp) : List Char :=
  t.date.render ++ 'T' :: Decimal.padded 2 (t.secondOfDay / 3600)
    ++ ':' :: Decimal.padded 2 (t.secondOfDay / 60 % 60)
    ++ ':' :: Decimal.padded 2 t.second
    ++ renderFraction t.nanosOfSecond ++ ['+', '0', '0', ':', '0', '0']

/-- Time runs through the seconds and within a second through its nanoseconds. -/
def before (t u : Timestamp) : Prop :=
  t.seconds < u.seconds ∨ t.seconds = u.seconds ∧ t.nanos < u.nanos

end Timestamp
end DriverTelemetry
