import AlertRelay.Json.Fault

/-!
# Quoted texts of JSON

Reading starts behind the opening quote. One element is a raw character or an escape; a pair
of surrogate escapes is one element too.
-/
namespace AlertRelay.Json

/-- What a scanner found: a value and the characters it took, or a breach of the grammar that
many octets on. -/
inductive Scan (α : Type) where
  | found (value : α) (length : Nat)
  | fault (cause : Cause) (octets : Nat)

def width : List Char → Nat
  | [] => 0
  | c :: cs => c.utf8Size + width cs

namespace Quote

def hexDigit? (c : Char) : Option Nat :=
  let n := c.toNat
  if 48 ≤ n && n ≤ 57 then some (n - 48)
  else if 65 ≤ n && n ≤ 70 then some (n - 55)
  else if 97 ≤ n && n ≤ 102 then some (n - 87)
  else none

/-- Four hexadecimal digits; the next four octets belong to the escape whatever they are. -/
def codeUnit (cs : List Char) : Scan Nat :=
  let octets := width (cs.take 4)
  if octets < 4 then .fault .endInText octets
  else match (cs.take 4).mapM hexDigit? with
    | some [a, b, c, d] => .found (((a * 16 + b) * 16 + c) * 16 + d) 4
    | _ => .fault .invalidEscape 4

def isLead (n : Nat) : Bool := 0xD800 ≤ n && n ≤ 0xDBFF
def isTrail (n : Nat) : Bool := 0xDC00 ≤ n && n ≤ 0xDFFF

def ofPair (lead trail : Nat) : Char :=
  Char.ofNat ((lead - 0xD800) * 0x400 + (trail - 0xDC00) + 0x10000)

/-- What must follow a lead surrogate: `\u` and a trail surrogate. -/
def trailUnit : List Char → Scan Nat
  | [] => .fault .endInText 0
  | '\\' :: rest =>
      match rest with
      | [] => .fault .endInText 1
      | 'u' :: digits =>
          match codeUnit digits with
          | .found n length =>
              if isTrail n then .found n (length + 2) else .fault .unpairedSurrogate (length + 2)
          | .fault cause octets => .fault cause (octets + 2)
      | _ :: _ => .fault .unfinishedPair 2
  | _ :: _ => .fault .unfinishedPair 1

/-- Behind `\u`. -/
def unicodeEscape (cs : List Char) : Scan Char :=
  match codeUnit cs with
  | .fault cause octets => .fault cause octets
  | .found n length =>
      if isTrail n then .fault .unpairedSurrogate length
      else if isLead n then
        match trailUnit (cs.drop length) with
        | .found t more => .found (ofPair n t) (length + more)
        | .fault cause octets => .fault cause (length + octets)
      else .found (Char.ofNat n) length

def simpleEscape? : Char → Option Char
  | '"' => some '"'
  | '\\' => some '\\'
  | '/' => some '/'
  | 'b' => some '\x08'
  | 'f' => some '\x0c'
  | 'n' => some '\n'
  | 'r' => some '\r'
  | 't' => some '\t'
  | _ => none

/-- Behind a backslash. -/
def escape : List Char → Scan Char
  | [] => .fault .endInText 0
  | c :: rest =>
      if c = 'u' then
        match unicodeEscape rest with
        | .found d length => .found d (length + 1)
        | .fault cause octets => .fault cause (octets + 1)
      else match simpleEscape? c with
        | some d => .found d 1
        | none => .fault .invalidEscape 1

/-- The rest of a quoted text, `skip` characters of an element already read being left out. The
length includes the closing quote. -/
def scan (skip : Nat) : List Char → Scan (List Char)
  | [] => .fault .endInText 0
  | c :: rest =>
      match skip with
      | skip + 1 =>
          match scan skip rest with
          | .found text length => .found text (length + 1)
          | .fault cause octets => .fault cause (octets + c.utf8Size)
      | 0 =>
          if c = '"' then .found [] 1
          else if c = '\\' then
            match escape rest with
            | .fault cause octets => .fault cause (octets + 1)
            | .found d more =>
                match scan more rest with
                | .found text length => .found (d :: text) (length + 1)
                | .fault cause octets => .fault cause (octets + 1)
          else if c.toNat < 0x20 then .fault .controlCharacter 1
          else
            match scan 0 rest with
            | .found text length => .found (c :: text) (length + 1)
            | .fault cause octets => .fault cause (octets + c.utf8Size)

end Quote
end AlertRelay.Json
