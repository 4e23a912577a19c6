/-!
# What can be wrong with a JSON text

A `Cause` is a breach of the grammar; it always has a place. A `Mismatch` is a well-formed
value of the wrong kind; it has a place only while the text is still being read.
-/
namespace AlertRelay.Json

inductive Cause where
  | endInValue | endInText | endInArray | endInObject
  | expectedValue | expectedWord | expectedColon | expectedArrayEnd | expectedObjectEnd
  | keyNotText | trailingComma | trailingCharacters
  | invalidNumber | numberOutOfRange
  | invalidEscape | unfinishedPair | unpairedSurrogate | controlCharacter
  | tooDeep
  deriving DecidableEq, Repr

namespace Cause

def message : Cause → String
  | endInValue => "EOF while parsing a value"
  | endInText => "EOF while parsing a string"
  | endInArray => "EOF while parsing a list"
  | endInObject => "EOF while parsing an object"
  | expectedValue => "expected value"
  | expectedWord => "expected ident"
  | expectedColon => "expected `:`"
  | expectedArrayEnd => "expected `,` or `]`"
  | expectedObjectEnd => "expected `,` or `\x7d`"
  | keyNotText => "key must be a string"
  | trailingComma => "trailing comma"
  | trailingCharacters => "trailing characters"
  | invalidNumber => "invalid number"
  | numberOutOfRange => "number out of range"
  | invalidEscape => "invalid escape"
  | unfinishedPair => "unexpected end of hex escape"
  | unpairedSurrogate => "lone leading surrogate in hex escape"
  | controlCharacter => "control character (\\u0000-\\u001F) found while parsing a string"
  | tooDeep => "recursion limit exceeded"

/-- The text could go on to a well-formed one. -/
def isUnfinished : Cause → Bool
  | endInValue | endInText | endInArray | endInObject => true
  | _ => false

end Cause

/-- A breach of the grammar after that many octets of the text. -/
structure Fault where
  cause : Cause
  offset : Nat
  deriving DecidableEq, Repr

inductive Mismatch where
  | missingField (name : String)
  | duplicateField (name : String)
  | unknownVariant (found : String) (known : List String)
  | invalidType (found wanted : String)
  | invalidValue (found wanted : String)
  | invalidLength (length : Nat) (wanted : String)
  deriving DecidableEq, Repr

def Mismatch.message : Mismatch → String
  | missingField name => "missing field `" ++ name ++ "`"
  | duplicateField name => "duplicate field `" ++ name ++ "`"
  | unknownVariant found known =>
      "unknown variant `" ++ found ++ "`, expected one of "
        ++ ", ".intercalate (known.map fun k => "`" ++ k ++ "`")
  | invalidType found wanted => "invalid type: " ++ found ++ ", expected " ++ wanted
  | invalidValue found wanted => "invalid value: " ++ found ++ ", expected " ++ wanted
  | invalidLength length wanted =>
      "invalid length " ++ toString length ++ ", expected " ++ wanted

/-- Why a text is no value of the wanted kind. -/
inductive Error where
  | grammar (fault : Fault)
  | mismatch (m : Mismatch) (offset? : Option Nat)
  deriving DecidableEq, Repr

inductive Category where
  | grammar | unfinished | mismatch
  deriving DecidableEq, Repr

namespace Error

def category : Error → Category
  | grammar fault => if fault.cause.isUnfinished then .unfinished else .grammar
  | mismatch .. => .mismatch

def offset? : Error → Option Nat
  | grammar fault => some fault.offset
  | mismatch _ offset? => offset?

end Error

/-- Lines count from 1; the column is the number of octets since the last line feed. -/
structure Position where
  line : Nat
  column : Nat
  deriving DecidableEq, Repr

namespace Position

/-- Where one stands after `offset` octets, which may end within a character. -/
def advance (p : Position) (offset : Nat) : List Char → Position
  | [] => p
  | c :: rest =>
      if offset = 0 then p
      else if c = '\n' then advance ⟨p.line + 1, 0⟩ (offset - 1) rest
      else advance ⟨p.line, p.column + min c.utf8Size offset⟩ (offset - c.utf8Size) rest

def ofOffset (text : List Char) (offset : Nat) : Position := advance ⟨1, 0⟩ offset text

end Position

/-- An error together with its place in the text. -/
structure Report where
  error : Error
  position? : Option Position
  deriving DecidableEq, Repr

def Error.report (e : Error) (text : List Char) : Report :=
  ⟨e, e.offset?.map (Position.ofOffset text)⟩

def Report.message (r : Report) : String :=
  let what := match r.error with
    | .grammar fault => fault.cause.message
    | .mismatch m _ => m.message
  match r.position? with
  | some p => what ++ " at line " ++ toString p.line ++ " column " ++ toString p.column
  | none => what

end AlertRelay.Json
