import DriverTelemetry.Decimal.Digits

/-!
# Addresses by number

The two forms in which a host is given by its number: up to four numbers between points, and up to
eight groups of hexadecimal digits between colons, of which one run of zero groups may be left out;
and bytes of a text by number, each a percent sign and two hexadecimal digits.
-/
namespace DriverTelemetry.Address

def isHexDigit (c : Char) : Bool :=
  c.isDigit || 'a' ≤ c && c ≤ 'f' || 'A' ≤ c && c ≤ 'F'

def hexDigit (c : Char) : Nat :=
  if c.isDigit then c.toNat - 48 else if c.isLower then c.toNat - 87 else c.toNat - 55

def valueOf (base : Nat) (ds : List Char) : Nat := ds.foldl (fun n c => base * n + hexDigit c) 0

/-- A number in decimal, after a zero in octal, and after a zero and an x in hexadecimal, where it
may have no digits. -/
def number? (cs : List Char) : Option Nat :=
  match cs with
  | [] => none
  | ['0'] => some 0
  | '0' :: 'x' :: ds => if ds.all isHexDigit then some (valueOf 16 ds) else none
  | '0' :: 'X' :: ds => if ds.all isHexDigit then some (valueOf 16 ds) else none
  | '0' :: ds => if ds.all fun c => c.isDigit && c < '8' then some (valueOf 8 ds) else none
  | ds => Decimal.ofDigits? ds

/-- The parts of a name without the empty one after a closing point. -/
def parts (cs : List Char) : List (List Char) :=
  let all := cs.splitOn '.'
  if all.getLast? = some [] then all.dropLast else all

/-- A name whose last part is a number can only be a host by number. -/
def endsInNumber (cs : List Char) : Bool :=
  match (parts cs).getLast? with
  | none => false
  | some last => !last.isEmpty && last.all Char.isDigit || (number? last).isSome

/-- Up to four numbers. The last one fills the bytes that the others leave. -/
def isIpv4 (cs : List Char) : Bool :=
  let all := parts cs
  match all.mapM number? with
  | none => false
  | some numbers =>
    numbers.length ≤ 4 && numbers.dropLast.all (fun n => n < 256) &&
      numbers.getLastD 0 < Nat.pow 256 (5 - numbers.length)

def isByte (cs : List Char) : Bool :=
  (cs.length == 1 || cs.head? != some '0') &&
    match Decimal.ofDigits? cs with
    | some n => n < 256
    | none => false

/-- Four bytes between points, as the end of a host by groups. -/
def isDottedEnd (cs : List Char) : Bool :=
  let bytes := cs.splitOn '.'
  bytes.length == 4 && bytes.all isByte

/-- The groups from one on; `count` groups precede it, the one that was left out among them. -/
def groups : Nat → Nat → Bool → List Char → Bool
  | _, count, short, [] => short || count == 8
  | 0, _, _, _ => false
  | bound + 1, count, short, c :: cs =>
    if 8 ≤ count then false
    else if c = ':' then !short && groups bound (count + 1) true cs
    else
      let digits := ((c :: cs).take 4).takeWhile isHexDigit
      match (c :: cs).drop digits.length with
      | [] => groups bound (count + 1) short []
      | '.' :: _ =>
        !digits.isEmpty && isDottedEnd (c :: cs) && (if short then count ≤ 6 else count == 6)
      | ':' :: rest => !rest.isEmpty && groups bound (count + 1) short rest
      | _ => false

def isIpv6 (cs : List Char) : Bool :=
  match cs with
  | [] => false
  | [_] => false
  | ':' :: ':' :: rest => groups (rest.length + 1) 1 true rest
  | ':' :: _ => false
  | _ => groups (cs.length + 1) 0 false cs

/-- The bytes of a text that is given by bytes some of which are written by number. -/
def percentBytes : List UInt8 → List UInt8
  | 0x25 :: a :: b :: rest =>
    let high := Char.ofNat a.toNat
    let low := Char.ofNat b.toNat
    if isHexDigit high && isHexDigit low then
      UInt8.ofNat (16 * hexDigit high + hexDigit low) :: percentBytes rest
    else 0x25 :: percentBytes (a :: b :: rest)
  | byte :: rest => byte :: percentBytes rest
  | [] => []

def percentDecoded? (cs : List Char) : Option (List Char) :=
  let bytes := percentBytes (String.ofList cs).toUTF8.toList
  (String.fromUTF8? ⟨bytes.toArray⟩).map String.toList

end DriverTelemetry.Address
