/-!
# Double-precision numbers

A double is its 64 bits: a sign, eleven bits of exponent and 52 bits of fraction. A finite one is
`significand · 2 ^ exponent` up to sign, with both read off the bits, so every statement about its
value is one about natural numbers.
-/
namespace DriverTelemetry

structure Double where
  bits : UInt64
  deriving DecidableEq

namespace Double

/-- The weight of the sign bit. -/
def signUnit : Nat := Nat.pow 2 63

/-- The weight of the lowest bit of the exponent, and of the leading bit that is left implicit. -/
def leadingUnit : Nat := Nat.pow 2 52

def isNegative (x : Double) : Bool := signUnit ≤ x.bits.toNat

def exponentField (x : Double) : Nat := x.bits.toNat / leadingUnit % 2048

def fraction (x : Double) : Nat := x.bits.toNat % leadingUnit

def isNaN (x : Double) : Bool := x.exponentField == 2047 && x.fraction != 0

def isInfinite (x : Double) : Bool := x.exponentField == 2047 && x.fraction == 0

def isZero (x : Double) : Bool := x.bits.toNat % signUnit == 0

/-- Subnormal numbers have no implicit leading bit. -/
def significand (x : Double) : Nat :=
  if x.exponentField = 0 then x.fraction else leadingUnit + x.fraction

def exponent (x : Double) : Int :=
  if x.exponentField = 0 then -1074 else (x.exponentField : Int) - 1075

/-- Numeric equality: no NaN equals anything, and the two zeros are equal. -/
def equal (x y : Double) : Bool :=
  !x.isNaN && !y.isNaN && (x == y || x.isZero && y.isZero)

/-- A whole number that grows with the value; the two zeros have the same. -/
def rank (x : Double) : Int :=
  let magnitude := x.bits.toNat % signUnit
  if x.isNegative then -(magnitude : Int) else magnitude

def nan : Double := ⟨0x7ff8000000000000⟩

def canonical (x : Double) : Double := if x.isNaN then nan else x

def ofFields (negative : Bool) (exponentField fraction : Nat) : Double :=
  ⟨UInt64.ofNat ((if negative then signUnit else 0) + exponentField * leadingUnit + fraction)⟩

def infinity (negative : Bool) : Double := ofFields negative 2047 0

end Double
end DriverTelemetry
