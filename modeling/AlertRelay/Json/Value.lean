import AlertRelay.Numeric.Shortest
import AlertRelay.Text.Quoted

/-!
# JSON documents

An object keeps its members in the order of the text, repeated keys included. A number is an
integer where the text has the form of one and fits 64 bits, and a binary64 otherwise.
-/
namespace AlertRelay.Json

inductive Number where
  | integer (n : Int)
  | float (x : Numeric.Binary)
  deriving DecidableEq, Repr

inductive Scalar where
  | null
  | boolean (b : Bool)
  | number (n : Number)
  | text (s : String)
  deriving DecidableEq, Repr

inductive Value where
  | scalar (s : Scalar)
  | array (items : List Value)
  | object (members : List (String × Value))
  deriving Inhabited

/-- Floats in messages: positional from 1e-5 up to below 1e16, then `1e-7` and `1e+16`. -/
def floatStyle : Numeric.Style := ⟨-5, 16, true⟩

def Number.describe : Number → String
  | integer n => "integer `" ++ toString n ++ "`"
  | float x => "floating point `" ++ floatStyle.write Numeric.binary64 x ++ "`"

def Scalar.describe : Scalar → String
  | null => "null"
  | boolean b => "boolean `" ++ toString b ++ "`"
  | number n => n.describe
  | text s => "string " ++ Text.quoted s

namespace Value

/-- How a value is named where another kind was wanted. -/
def describe : Value → String
  | scalar s => s.describe
  | array _ => "sequence"
  | object _ => "map"

def null : Value := scalar .null
def boolean (b : Bool) : Value := scalar (.boolean b)
def number (n : Number) : Value := scalar (.number n)
def text (s : String) : Value := scalar (.text s)

/-- The value of the last member of that name. -/
def member? (name : String) : Value → Option Value
  | object members => (members.reverse.find? (·.1 == name)).map (·.2)
  | _ => none

def boolean? : Value → Option Bool
  | scalar (.boolean b) => some b
  | _ => none

end Value
end AlertRelay.Json
