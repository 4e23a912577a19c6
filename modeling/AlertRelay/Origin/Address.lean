import AlertRelay.Json.Quote
import AlertRelay.Text.Split

/-!
# Numeric host addresses

Addresses of 32 bits are written as up to four parts, decimal, octal behind `0` or hexadecimal
behind `0x`, of which the last fills what the others leave. Addresses of 128 bits are eight
groups of hexadecimal digits; `::` stands for a run of zeros, and the last two groups may be
written as four decimal parts.
-/
namespace AlertRelay.Origin

open Json.Quote (hexDigit?)

/-- The digits of a text as a number, if all are digits below the base. -/
def numeral? (base : Nat) (cs : List Char) : Option Nat :=
  cs.foldlM (fun n c => (hexDigit? c).bind fun d => if d < base then some (n * base + d) else none) 0

namespace Ipv4

/-- One part; its notation tells the base. -/
def part? (cs : List Char) : Option Nat :=
  match cs with
  | [] => none
  | '0' :: 'x' :: rest | '0' :: 'X' :: rest => numeral? 16 rest
  | '0' :: d :: rest => numeral? 8 (d :: rest)
  | _ => numeral? 10 cs

/-- The last part of a name, an empty one behind a final point left out. -/
def last? (parts : List (List Char)) : Option (List Char) :=
  match parts.reverse with
  | [] :: p :: _ => some p
  | [] :: [] => none
  | p :: _ => some p
  | [] => none

/-- A name that ends in a number can only be an address. -/
def isMeant (parts : List (List Char)) : Bool :=
  match last? parts with
  | none => false
  | some p => !p.isEmpty && (p.all Char.isDigit || (part? p).isSome)

/-- Parts that each are a byte, then one that fills the rest. -/
def combine? (numbers : List Nat) : Option Nat :=
  match numbers.reverse with
  | [] => none
  | last :: rest =>
      if 3 < rest.length || 1 <<< (8 * (4 - rest.length)) ≤ last || rest.any (255 < ·) then none
      else some (rest.reverse.foldl (fun n b => n * 256 + b) 0 <<< (8 * (4 - rest.length)) + last)

def parse? (parts : List (List Char)) : Option Nat :=
  let parts := if parts.getLast? = some [] then parts.dropLast else parts
  (parts.mapM part?).bind combine?

def isLoopback (address : Nat) : Bool := address >>> 24 == 127

end Ipv4

namespace Ipv6

/-- A decimal part of at most 255, without leading zeros. -/
def byte? (cs : List Char) : Option Nat :=
  match cs with
  | [] => none
  | '0' :: _ :: _ => none
  | _ => (numeral? 10 cs).bind fun n => if n ≤ 255 then some n else none

def group? (cs : List Char) : Option Nat :=
  if cs.isEmpty || 4 < cs.length then none else numeral? 16 cs

/-- Groups with colons between them; the last may be four decimal parts. -/
def groups? : List (List Char) → Option (List Nat)
  | [] => some []
  | [w] =>
      if w.contains '.' then
        match (Text.split '.' w).mapM byte? with
        | some [a, b, c, d] => some [a * 256 + b, c * 256 + d]
        | _ => none
      else (group? w).map ([·])
  | w :: rest => (group? w).bind fun n => (groups? rest).map (n :: ·)

/-- The groups of a text, which may be empty. -/
def side? (cs : List Char) : Option (List Nat) :=
  if cs.isEmpty then some [] else groups? (Text.split ':' cs)

/-- What stands before the first `::`, and what behind it. -/
def splitGap : List Char → List Char × Option (List Char)
  | ':' :: ':' :: rest => ([], some rest)
  | [] => ([], none)
  | c :: rest => let (before, after) := splitGap rest; (c :: before, after)

/-- The eight groups of an address; a gap stands for one group of zeros at least. -/
def parse? (cs : List Char) : Option (List Nat) :=
  match splitGap cs with
  | (before, none) => (groups? (Text.split ':' before)).bind fun gs =>
      if gs.length = 8 then some gs else none
  | (before, some after) =>
      if before.contains '.' then none
      else (side? before).bind fun ls => (side? after).bind fun rs =>
        if ls.length + rs.length ≤ 7 then
          some (ls ++ List.replicate (8 - ls.length - rs.length) 0 ++ rs)
        else none

def isLoopback (groups : List Nat) : Bool := groups == [0, 0, 0, 0, 0, 0, 0, 1]

end Ipv6
end AlertRelay.Origin
