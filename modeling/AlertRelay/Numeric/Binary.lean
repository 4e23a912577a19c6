/-!
# Binary floating point in exact arithmetic

A finite number is a sign, a mantissa `m` and an exponent `q`, and stands for `m * 2 ^ q`.
Each operation computes the exact quotient of natural numbers and rounds it once, to the
nearest number of the format, a tie to the even mantissa.
-/
namespace AlertRelay.Numeric

/-- `m * 2 ^ q` with `m < 2 ^ precision` and `least ≤ q ≤ greatest`. -/
structure Format where
  precision : Nat
  least : Int
  greatest : Int
  deriving DecidableEq, Repr

def binary64 : Format := ⟨53, -1074, 971⟩
def binary32 : Format := ⟨24, -149, 104⟩

/-- A magnitude `mantissa * 2 ^ exponent`. -/
structure Magnitude where
  mantissa : Nat
  exponent : Int
  deriving DecidableEq, Repr

namespace Magnitude

def zero (f : Format) : Magnitude := ⟨0, f.least⟩

/-- Numerator and denominator of the value. -/
def numerator (x : Magnitude) : Nat := x.mantissa <<< x.exponent.toNat
def denominator (x : Magnitude) : Nat := 1 <<< (-x.exponent).toNat

/-- The quotient to the nearest natural number, a half to the even one. -/
def nearest (num den : Nat) : Nat :=
  let q := num / den
  let twice := 2 * (num % den)
  if twice < den then q
  else if den < twice then q + 1
  else if q % 2 = 0 then q else q + 1

/-- `num * 2 ^ (-q) / den`, as a pair of natural numbers. -/
def scaled (num den : Nat) (q : Int) : Nat × Nat :=
  (num <<< (-q).toNat, den <<< q.toNat)

/-- The exponent at which the quotient has as many binary digits as the format holds, or the
least one of the format. -/
def gridExponent (f : Format) (num den : Nat) : Int :=
  let low : Int := (num.log2 : Int) - (den.log2 : Int) - (f.precision : Int)
  let (a, b) := scaled num den low
  let fitting := if a / b < 1 <<< f.precision then low else low + 1
  max fitting f.least

/-- The number of the format nearest to `num / den`; `none` above the greatest. -/
def round? (f : Format) (num den : Nat) : Option Magnitude :=
  if num = 0 then some (zero f)
  else
    let q := gridExponent f num den
    let (a, b) := scaled num den q
    let m := nearest a b
    let r : Magnitude := if m < 1 <<< f.precision then ⟨m, q⟩ else ⟨m / 2, q + 1⟩
    if r.exponent ≤ f.greatest then some r else none

def ofNat? (f : Format) (n : Nat) : Option Magnitude := round? f n 1

def mul? (f : Format) (x y : Magnitude) : Option Magnitude :=
  round? f (x.numerator * y.numerator) (x.denominator * y.denominator)

def div? (f : Format) (x y : Magnitude) : Option Magnitude :=
  round? f (x.numerator * y.denominator) (x.denominator * y.numerator)

end Magnitude

/-- A signed number of some format, or what lies beyond its greatest. -/
inductive Binary where
  | finite (negative : Bool) (magnitude : Magnitude)
  | infinite (negative : Bool)
  deriving DecidableEq, Repr

namespace Binary

def ofMagnitude? (negative : Bool) : Option Magnitude → Binary
  | some m => finite negative m
  | none => infinite negative

/-- The nearest number of a format to a signed quotient. -/
def ofQuotient (f : Format) (negative : Bool) (num den : Nat) : Binary :=
  ofMagnitude? negative (Magnitude.round? f num den)

/-- The same value in another format, rounded once more. -/
def convert (f : Format) : Binary → Binary
  | finite negative m => ofQuotient f negative m.numerator m.denominator
  | infinite negative => infinite negative

/-- The nearest number of the interval from 0 to 1; a zero keeps its sign. -/
def clampUnit (f : Format) : Binary → Binary
  | finite true m => if m.mantissa = 0 then finite true m else ofQuotient f false 0 1
  | finite false m => if m.numerator ≤ m.denominator then finite false m else ofQuotient f false 1 1
  | infinite true => ofQuotient f false 0 1
  | infinite false => ofQuotient f false 1 1

end Binary
end AlertRelay.Numeric
