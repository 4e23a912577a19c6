import AlertRelay.Origin.Address
import AlertRelay.Origin.Label
import AlertRelay.Text.Blank
import AlertRelay.Text.Utf8

/-!
# Sites and secure origins

Of an address only scheme and host decide whether it is a secure context: encrypted schemes are,
and plain ones on the machine itself. Control characters and blanks around the address and line
breaks inside it are left out; any run of slashes, forward or backward, may precede the host.
-/
namespace AlertRelay.Origin

/-- Schemes of sites; other schemes are of no concern here. -/
inductive Scheme where
  | http | https | ws | wss
  deriving DecidableEq, Repr

namespace Scheme

def name : Scheme → List Char
  | http => ['h', 't', 't', 'p']
  | https => ['h', 't', 't', 'p', 's']
  | ws => ['w', 's']
  | wss => ['w', 's', 's']

def all : List Scheme := [http, https, ws, wss]

def ofName? (cs : List Char) : Option Scheme := all.find? (·.name == cs.map Char.toLower)

/-- What is sent cannot be read or changed on the way. -/
def isEncrypted (s : Scheme) : Bool := s == https || s == wss

end Scheme

inductive Host where
  | domain (labels : List Label)
  | ipv4 (address : Nat)
  | ipv6 (groups : List Nat)
  deriving DecidableEq, Repr

def localName : Label := ['l', 'o', 'c', 'a', 'l', 'h', 'o', 's', 't']

/-- The host is the machine itself. -/
def Host.isLocal : Host → Bool
  | domain labels => labels.getLast? == some localName
  | ipv4 address => Ipv4.isLoopback address
  | ipv6 groups => Ipv6.isLoopback groups

/-- The octet that two hexadecimal digits stand for. -/
def hexOctet? (x y : UInt8) : Option UInt8 :=
  (Json.Quote.hexDigit? (Char.ofNat x.toNat)).bind fun h =>
    (Json.Quote.hexDigit? (Char.ofNat y.toNat)).map fun l => UInt8.ofNat (h * 16 + l)

/-- `%` and two hexadecimal digits stand for one octet. -/
def percentDecode : List UInt8 → List UInt8
  | b :: x :: y :: rest =>
      match if b = 0x25 then hexOctet? x y else none with
      | some o => o :: percentDecode rest
      | none => b :: percentDecode (x :: y :: rest)
  | octets => octets

namespace Host

/-- A host name, once `%` escapes are read. One that ends in a number is an address. -/
def ofName? (cs : List Char) : Option Host :=
  (Text.Utf8.text? (percentDecode (Text.Utf8.encode cs))).bind fun name =>
    (labels? name).bind fun ls =>
      if Ipv4.isMeant ls then (Ipv4.parse? ls).map ipv4 else some (domain ls)

def ofText? (cs : List Char) : Option Host :=
  match cs with
  | [] => none
  | '[' :: rest =>
      if rest.getLast? = some ']' then (Ipv6.parse? rest.dropLast).map ipv6 else none
  | _ => ofName? cs

end Host

structure Site where
  scheme : Scheme
  host : Host
  deriving DecidableEq, Repr

namespace Site

/-- Without controls and blanks around, and without tabs and line breaks. -/
def clean (cs : List Char) : List Char :=
  let isEdge (c : Char) : Bool := c.toNat ≤ 0x20
  (Text.dropEndWhile isEdge (cs.dropWhile isEdge)).filter fun c =>
    !(c = '\t' || c = '\n' || c = '\r')

/-- What stands before the first colon, if it has the form of a scheme, and what behind it. -/
def splitScheme (cs : List Char) : Option (List Char × List Char) :=
  let name := cs.takeWhile (· ≠ ':')
  match name, cs.dropWhile (· ≠ ':') with
  | first :: more, _ :: rest =>
      if first.isAlpha && more.all (fun c => c.isAlphanum || c = '+' || c = '-' || c = '.') then
        some (name, rest)
      else none
  | _, _ => none

def isSlash (c : Char) : Bool := c = '/' || c = '\\'

/-- A character that ends user information, host and port. -/
def endsAuthority (c : Char) : Bool := isSlash c || c = '?' || c = '#'

/-- What stands behind the last `@`. -/
def behindUser (cs : List Char) : List Char := (cs.reverse.takeWhile (· ≠ '@')).reverse

/-- What stands before the first colon outside brackets, and what from it on. -/
def splitPort (inBrackets : Bool) : List Char → List Char × List Char
  | [] => ([], [])
  | c :: rest =>
      if c = ':' && !inBrackets then ([], c :: rest)
      else
        let inside := if c = '[' then true else if c = ']' then false else inBrackets
        let (host, port) := splitPort inside rest
        (c :: host, port)

/-- Nothing, or a colon and a decimal number of 16 bits, which may be left out. -/
def isPort : List Char → Bool
  | [] => true
  | _ :: digits => (numeral? 10 digits).any (· ≤ 0xFFFF)

/-- Host and port. -/
def host? (authority : List Char) : Option Host :=
  let (host, port) := splitPort false (behindUser authority)
  if isPort port then Host.ofText? host else none

def parse? (text : List Char) : Option Site :=
  (splitScheme (clean text)).bind fun (name, rest) =>
    (Scheme.ofName? name).bind fun scheme =>
      (host? ((rest.dropWhile isSlash).takeWhile (!endsAuthority ·))).map fun host =>
        ⟨scheme, host⟩

/-- The site is a secure context. -/
def isSecure (s : Site) : Bool := s.scheme.isEncrypted || s.host.isLocal

end Site

/-- Whether an origin is a secure context; one that cannot be read is not. -/
def isSecure (origin : String) : Bool := (Site.parse? origin.toList).any Site.isSecure

end AlertRelay.Origin
