import AlertRelay.Json.Quote
import AlertRelay.Json.Value

/-!
# Numbers of JSON

A numeral is first split into its digits, then valued. Digits are taken into a 64-bit
significand as long as they fit; whole digits left out raise the decimal exponent instead, and
fraction digits left out count for nothing. A float is that significand, rounded, then
multiplied or divided once by a rounded power of ten.
-/
namespace AlertRelay.Json

/-- The digits of a number as written. -/
structure Numeral where
  negative : Bool
  whole : List Nat
  fraction : List Nat
  /-- Sign and digits of the exponent part, where there is one. -/
  exponent? : Option (Bool × List Nat)
  deriving DecidableEq, Repr

namespace Numeral

def digit? (c : Char) : Option Nat :=
  if 48 ≤ c.toNat && c.toNat ≤ 57 then some (c.toNat - 48) else none

/-- The digits in front, and what follows them. -/
def digits : List Char → List Nat × List Char
  | [] => ([], [])
  | c :: rest =>
      match digit? c with
      | some d => let (ds, after) := digits rest; (d :: ds, after)
      | none => ([], c :: rest)

/-- Behind `e` or `E`; the character after the sign is consumed even when it is no digit. -/
def exponentPart (cs : List Char) : Scan (Bool × List Nat) :=
  let (negative, sign, body) : Bool × Nat × List Char := match cs with
    | '-' :: r => (true, 1, r)
    | '+' :: r => (false, 1, r)
    | _ => (false, 0, cs)
  match digits body with
  | ([], []) => .fault .endInValue sign
  | ([], _) => .fault .invalidNumber (sign + 1)
  | (ds, _) => .found (negative, ds) (sign + ds.length)

/-- Behind the whole part: fraction and exponent. -/
def tail (negative : Bool) (whole : List Nat) (cs : List Char) : Scan Numeral :=
  let finish (fraction : List Nat) (taken : Nat) (cs : List Char) : Scan Numeral :=
    match cs with
    | c :: r =>
        if c = 'e' || c = 'E' then
          match exponentPart r with
          | .found e n => .found ⟨negative, whole, fraction, some e⟩ (taken + 1 + n)
          | .fault cause n => .fault cause (taken + 1 + n)
        else .found ⟨negative, whole, fraction, none⟩ taken
    | [] => .found ⟨negative, whole, fraction, none⟩ taken
  match cs with
  | '.' :: r =>
      match digits r with
      | ([], []) => .fault .endInValue 1
      | ([], _) => .fault .invalidNumber 2
      | (ds, after) => finish ds (1 + ds.length) after
  | _ => finish [] 0 cs

/-- Behind the minus sign, if any: a leading zero stands alone. -/
def unsigned (negative : Bool) (cs : List Char) : Scan Numeral :=
  match digits cs with
  | ([], []) => .fault .endInValue 0
  | ([], _) => .fault .invalidNumber 1
  | (0 :: _ :: _, _) => .fault .invalidNumber 2
  | (ds, after) =>
      match tail negative ds after with
      | .found x n => .found x (ds.length + n)
      | .fault cause n => .fault cause (ds.length + n)

def scan : List Char → Scan Numeral
  | '-' :: rest =>
      match unsigned true rest with
      | .found x n => .found x (n + 1)
      | .fault cause n => .fault cause (n + 1)
  | cs => unsigned false cs

def largest : Nat := 0xFFFFFFFFFFFFFFFF

/-- The digits that fit the significand, and those left out. -/
def absorb (significand : Nat) : List Nat → Nat × List Nat
  | [] => (significand, [])
  | d :: rest =>
      if significand * 10 + d ≤ largest then absorb (significand * 10 + d) rest
      else (significand, d :: rest)

/-- The digits of an exponent as a number; past 31 binary digits, how many of them that took. -/
def exponentValue (value taken : Nat) : List Nat → Except Nat Nat
  | [] => .ok value
  | d :: rest =>
      if value * 10 + d < 0x80000000 then exponentValue (value * 10 + d) (taken + 1) rest
      else .error (taken + 1)

/-- The greatest power of ten that is used in one step. -/
def step : Nat := 308

open Numeric in
def powerOfTen? (n : Nat) : Option Magnitude := Magnitude.ofNat? binary64 (Nat.pow 10 n)

open Numeric in
/-- Divided by `10 ^ n`, in steps while that power is too large. -/
def divideDown (x : Magnitude) (n : Nat) : Option Magnitude :=
  if n ≤ step then (powerOfTen? n).bind (x.div? binary64)
  else if x.mantissa = 0 then some x
  else ((powerOfTen? step).bind (x.div? binary64)).bind fun y => divideDown y (n - step)
termination_by n
decreasing_by simp only [step] at *; omega

open Numeric in
/-- `significand * 10 ^ exponent`; `none` past the greatest float. -/
def magnitude? (significand : Nat) (exponent : Int) : Option Magnitude :=
  (Magnitude.ofNat? binary64 significand).bind fun x =>
    if exponent < 0 then divideDown x exponent.natAbs
    else if exponent.toNat ≤ step then
      (powerOfTen? exponent.toNat).bind (x.mul? binary64)
    else if x.mantissa = 0 then some x
    else none

def float (negative : Bool) (x : Numeric.Magnitude) : Number := .float (.finite negative x)

/-- The value, or how many characters of the exponent digits were read when it proved too
large; `none` where that shows only at the end of the numeral. -/
def value (x : Numeral) : Except (Option Nat) Number :=
  let (whole, dropped) := absorb 0 x.whole
  let (significand, unread) := absorb whole x.fraction
  let shift : Int := (dropped.length : Int) - ((x.fraction.length - unread.length : Nat) : Int)
  let scaled (exponent : Int) : Except (Option Nat) Number :=
    match magnitude? significand exponent with
    | some m => .ok (float x.negative m)
    | none => .error none
  match x.exponent? with
  | some (negative, ds) =>
      match exponentValue 0 0 ds with
      | .ok e => scaled (if negative then shift - e else shift + e)
      | .error taken =>
          if significand = 0 || negative then .ok (float x.negative (.zero Numeric.binary64))
          else .error (some taken)
  | none =>
      if x.fraction.isEmpty && dropped.isEmpty then
        if !x.negative then .ok (.integer significand)
        else if 0 < significand && significand ≤ 0x8000000000000000 then .ok (.integer (-significand))
        else scaled 0
      else scaled shift

/-- A number in front of a text. -/
def read (cs : List Char) : Scan Number :=
  match scan cs with
  | .fault cause n => .fault cause n
  | .found x n =>
      match x.value with
      | .ok v => .found v n
      | .error none => .fault .numberOutOfRange n
      | .error (some taken) =>
          let ds := (x.exponent?.map (·.2.length)).getD 0
          .fault .numberOutOfRange (n - ds + taken)

end Numeral
end AlertRelay.Json
