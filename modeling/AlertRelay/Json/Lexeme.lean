import AlertRelay.Json.Numeral

/-!
# Lexemes of JSON

A text is cut into lexemes that carry the octets they stand at. The list always ends in one
that nothing can follow: the end of the text, a character that starts nothing, or a lexeme that
breaks off. What a broken lexeme means depends on what was wanted there, so that is left to the
reader.
-/
namespace AlertRelay.Json

inductive Token where
  | openArray | closeArray | openObject | closeObject | comma | colon
  | scalar (s : Scalar)
  /-- A quoted text, a number or a word that is not well formed. -/
  | broken (isText : Bool) (fault : Fault)
  | stray
  | finish
  deriving DecidableEq, Repr

structure Lexeme where
  token : Token
  start : Nat
  stop : Nat
  deriving DecidableEq, Repr

/-- White space between lexemes. -/
def isSpace (c : Char) : Bool := c = ' ' || c = '\t' || c = '\n' || c = '\r'

/-- The rest of a known word, letter by letter; the first letter that differs is consumed. -/
def word (value : Scalar) (done : Nat) : List Char → List Char → Scan Scalar
  | [], _ => .found value done
  | _ :: _, [] => .fault .endInValue done
  | w :: ws, c :: cs => if c = w then word value (done + 1) ws cs else .fault .expectedWord (done + 1)

/-- A word or a number in front of a text. -/
def bareScalar (c : Char) (rest : List Char) : Option (Scan Scalar) :=
  if c = 'n' then some (word .null 1 ['u', 'l', 'l'] rest)
  else if c = 't' then some (word (.boolean true) 1 ['r', 'u', 'e'] rest)
  else if c = 'f' then some (word (.boolean false) 1 ['a', 'l', 's', 'e'] rest)
  else if c = '-' || (Numeral.digit? c).isSome then
    some (match Numeral.read (c :: rest) with
      | .found n length => .found (.number n) length
      | .fault cause octets => .fault cause octets)
  else none

def punctuation? : Char → Option Token
  | '[' => some .openArray
  | ']' => some .closeArray
  | '\x7b' => some .openObject
  | '\x7d' => some .closeObject
  | ',' => some .comma
  | ':' => some .colon
  | _ => none

/-- The token in front of a text that is not empty, and the characters it takes. -/
def tokenAt (start : Nat) (c : Char) (rest : List Char) : Token × Nat :=
  match punctuation? c with
  | some token => (token, 1)
  | none =>
      if c = '"' then
        match Quote.scan 0 rest with
        | .found text length => (.scalar (.text (String.ofList text)), length + 1)
        | .fault cause octets => (.broken true ⟨cause, start + 1 + octets⟩, 1)
      else match bareScalar c rest with
        | some (.found s length) => (.scalar s, length)
        | some (.fault cause octets) => (.broken false ⟨cause, start + octets⟩, 1)
        | none => (.stray, 1)

def Token.isLast : Token → Bool
  | broken .. | stray | finish => true
  | _ => false

/-- The lexemes of a text that begins `start` octets in, `skip` characters of one already read
being left out. -/
def lexemesFrom (start skip : Nat) : List Char → List Lexeme
  | [] => [⟨.finish, start, start⟩]
  | c :: rest =>
      match skip with
      | skip + 1 => lexemesFrom (start + c.utf8Size) skip rest
      | 0 =>
          if isSpace c then lexemesFrom (start + 1) 0 rest
          else
            let (token, length) := tokenAt start c rest
            let lexeme : Lexeme := ⟨token, start, start + width ((c :: rest).take length)⟩
            if token.isLast then [lexeme]
            else lexeme :: lexemesFrom (start + c.utf8Size) (length - 1) rest

def lexemes (text : List Char) : List Lexeme := lexemesFrom 0 0 text

end AlertRelay.Json
