/-!
# Reading octets as UTF-8

Characters are decoded from the left. At the first octet that starts no character the reading
stops with how far it got: either the octets there cannot start a character, and `span` says
how many of them to step over, or the text ends within a character.
-/
namespace AlertRelay.Text.Utf8

inductive Fault where
  | invalid (index span : Nat)
  | incomplete (index : Nat)
  deriving DecidableEq, Repr

def Fault.message : Fault → String
  | invalid index span =>
      "invalid utf-8 sequence of " ++ toString span ++ " bytes from index " ++ toString index
  | incomplete index => "incomplete utf-8 byte sequence from index " ++ toString index

/-- How many octets follow a leading one; `none` for an octet that leads nothing. -/
def following? (b : UInt8) : Option Nat :=
  if b < 0x80 then some 0
  else if 0xC2 ≤ b && b ≤ 0xDF then some 1
  else if 0xE0 ≤ b && b ≤ 0xEF then some 2
  else if 0xF0 ≤ b && b ≤ 0xF4 then some 3
  else none

/-- The second octet is bounded further where it would spell a shorter form, a surrogate or a
number above U+10FFFF. -/
def isSecond (lead b : UInt8) : Bool :=
  if lead == 0xE0 then 0xA0 ≤ b && b ≤ 0xBF
  else if lead == 0xED then 0x80 ≤ b && b ≤ 0x9F
  else if lead == 0xF0 then 0x90 ≤ b && b ≤ 0xBF
  else if lead == 0xF4 then 0x80 ≤ b && b ≤ 0x8F
  else 0x80 ≤ b && b ≤ 0xBF

def isContinuation (b : UInt8) : Bool := 0x80 ≤ b && b ≤ 0xBF

/-- How the octets at hand begin. -/
inductive Head where
  | character (c : Char) (more : Nat)
  | invalid (span : Nat)
  | incomplete
  deriving DecidableEq, Repr

/-- The six low bits of an octet that continues a character. -/
def bits (b : UInt8) : Nat := b.toNat % 64

def head (lead : UInt8) (rest : List UInt8) : Head :=
  match following? lead, rest with
  | none, _ => .invalid 1
  | some 0, _ => .character (Char.ofNat lead.toNat) 0
  | some _, [] => .incomplete
  | some 1, b :: _ =>
      if !isSecond lead b then .invalid 1
      else .character (Char.ofNat (lead.toNat % 32 * 64 + bits b)) 1
  | some 2, b :: r =>
      if !isSecond lead b then .invalid 1
      else match r with
        | [] => .incomplete
        | c :: _ =>
            if !isContinuation c then .invalid 2
            else .character (Char.ofNat (lead.toNat % 16 * 4096 + bits b * 64 + bits c)) 2
  | some _, b :: r =>
      if !isSecond lead b then .invalid 1
      else match r with
        | [] => .incomplete
        | [c] => if !isContinuation c then .invalid 2 else .incomplete
        | c :: d :: _ =>
            if !isContinuation c then .invalid 2
            else if !isContinuation d then .invalid 3
            else .character
              (Char.ofNat (lead.toNat % 8 * 262144 + bits b * 4096 + bits c * 64 + bits d)) 3

/-- The characters from an index on, `skip` octets of one already read being left out. -/
def decodeFrom (index skip : Nat) : List UInt8 → Except Fault (List Char)
  | [] => .ok []
  | b :: rest =>
      match skip with
      | skip + 1 => decodeFrom (index + 1) skip rest
      | 0 =>
          match head b rest with
          | .character c more =>
              match decodeFrom (index + 1) more rest with
              | .ok cs => .ok (c :: cs)
              | .error e => .error e
          | .invalid span => .error (.invalid index span)
          | .incomplete => .error (.incomplete index)

def decode (octets : List UInt8) : Except Fault (List Char) := decodeFrom 0 0 octets

def encode (cs : List Char) : List UInt8 := cs.flatMap String.utf8EncodeChar

/-- The text, if all octets read. -/
def text? (octets : List UInt8) : Option (List Char) :=
  match decode octets with
  | .ok cs => some cs
  | .error _ => none

end AlertRelay.Text.Utf8
