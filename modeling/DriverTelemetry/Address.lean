import DriverTelemetry.Address.Domain
import DriverTelemetry.Address.Number

/-!
# Addresses

A scheme and a colon, and behind two slashes a user, a host and a port. For the schemes of the web
the host has to be a domain name or a number, and a backslash does for a slash; for all others it
may have any characters that part nothing. An address that begins with no scheme is none.
-/
namespace DriverTelemetry

/-- Why a text is no address. -/
inductive AddressFault where
  | noScheme
  | emptyHost
  | port
  | ipv4
  | ipv6
  | character
  | domain
  deriving DecidableEq

def AddressFault.message : AddressFault → String
  | .noScheme => "relative URL without a base"
  | .emptyHost => "empty host"
  | .port => "invalid port number"
  | .ipv4 => "invalid IPv4 address"
  | .ipv6 => "invalid IPv6 address"
  | .character => "invalid domain character"
  | .domain => "invalid international domain name"

structure Address where
  /-- In lower case. -/
  scheme : String
  /-- All that follows the colon. -/
  rest : List Char
  deriving DecidableEq

namespace Address

/-- Blanks and controls around an address do not belong to it. -/
def isPadding (c : Char) : Bool := c.toNat ≤ 0x20

def unpadded (cs : List Char) : List Char :=
  ((cs.dropWhile isPadding).reverse.dropWhile isPadding).reverse

/-- Line breaks and tabs inside an address are passed over. -/
def isSkipped (c : Char) : Bool := c = '\t' || c = '\n' || c = '\r'

def isSchemeChar (c : Char) : Bool := c.isAlphanum || c = '+' || c = '-' || c = '.'

/-- A letter, then letters, digits and three marks, up to a colon; and what follows it. -/
def takeScheme? (cs : List Char) : Option (List Char × List Char) :=
  if (cs.head?.map Char.isAlpha).getD false then
    match cs.dropWhile isSchemeChar with
    | ':' :: rest => some ((cs.takeWhile isSchemeChar).map Char.toLower, rest)
    | _ => none
  else none

def webSchemes : List (List Char) := ["http", "https", "ws", "wss", "ftp"].map String.toList

def fileScheme : List Char := "file".toList

def isSlash (c : Char) : Bool := c = '/' || c = '\\'

def endsAuthority (web : Bool) (c : Char) : Bool :=
  c = '/' || c = '?' || c = '#' || web && c = '\\'

def checkBracketed (host : List Char) : Except AddressFault Unit :=
  if host.getLast? = some ']' && isIpv6 ((host.drop 1).dropLast) then .ok () else .error .ipv6

def startsBracketed (host : List Char) : Bool := host.head? = some '['

def checkHost (host : List Char) : Except AddressFault Unit :=
  if startsBracketed host then checkBracketed host
  else
    match (percentDecoded? host).bind domain? with
    | none => .error .domain
    | some name =>
      if name.isEmpty then .error .emptyHost
      else if endsInNumber name && !isIpv4 name then .error .ipv4
      else .ok ()

def isParting (c : Char) : Bool := c = '\x00' || "\t\n\r #/:<>?@[\\]^|".toList.contains c

/-- A host of any other scheme. -/
def checkOpenHost (host : List Char) : Except AddressFault Unit :=
  if startsBracketed host then checkBracketed host
  else if host.any isParting then .error .character
  else .ok ()

/-- The host up to its end or to a colon outside brackets. -/
def takeHost (web : Bool) (inBrackets : Bool) : List Char → List Char
  | [] => []
  | c :: cs =>
    if endsAuthority web c || c = ':' && !inBrackets then []
    else c :: takeHost web (if c = '[' then true else if c = ']' then false else inBrackets) cs

def greatestPort : Nat := 65535

/-- A port up to what ends it, with the value of the digits so far. -/
def checkPort (n : Nat) : List Char → Except AddressFault Unit
  | [] => .ok ()
  | c :: cs =>
    if c.isDigit then
      let n := 10 * n + (c.toNat - 48)
      if greatestPort < n then .error .port else checkPort n cs
    else if endsAuthority true c then .ok ()
    else .error .port

/-- A host and a port. Without a host there may be no port, and no user. -/
def checkHostAndPort (web user : Bool) (cs : List Char) : Except AddressFault Unit := do
  let host := takeHost web false cs
  let after := cs.drop host.length
  if host.isEmpty && (web || after.head? = some ':') then throw .emptyHost
  if web then checkHost host else checkOpenHost host
  if after.head? = some ':' then checkPort 0 (after.drop 1)
  if host.isEmpty && user then throw .emptyHost

/-- What follows two slashes: a user up to the last sign of one, a host and a port. -/
def checkAuthority (web : Bool) (cs : List Char) : Except AddressFault Unit := do
  let authority := cs.takeWhile fun c => !endsAuthority web c
  let host := (authority.reverse.takeWhile fun c => c ≠ '@').reverse
  let user := authority.take (authority.length - host.length)
  let rest := cs.drop user.length
  let atEnd := match rest with
    | [] => false
    | c :: _ => endsAuthority web c
  if user = ['@'] && atEnd then throw .emptyHost
  checkHostAndPort web (user ≠ [] && user ≠ ['@'] && user ≠ [':', '@']) rest

def isDrive (cs : List Char) : Bool :=
  match cs with
  | [c, mark] => c.isAlpha && (mark = ':' || mark = '|')
  | _ => false

/-- The host of a file may be left out, and has no port. -/
def checkFile (cs : List Char) : Except AddressFault Unit :=
  let host := (cs.drop 2).takeWhile fun c => !endsAuthority true c
  if (cs.take 2).countP isSlash < 2 || host.isEmpty || isDrive host then .ok () else checkHost host

def check (scheme rest : List Char) : Except AddressFault Unit :=
  if scheme = fileScheme then checkFile rest
  else if webSchemes.contains scheme then checkAuthority true (rest.dropWhile isSlash)
  else if rest.take 2 = ['/', '/'] then checkAuthority false (rest.drop 2)
  else .ok ()

def ofText (s : String) : Except AddressFault Address :=
  match takeScheme? ((unpadded s.toList).filter fun c => !isSkipped c) with
  | none => .error .noScheme
  | some (scheme, rest) => do
    check scheme rest
    return ⟨String.ofList scheme, rest⟩

end Address
end DriverTelemetry
