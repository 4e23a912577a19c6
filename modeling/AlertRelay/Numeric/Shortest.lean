import AlertRelay.Numeric.Binary

/-!
# The fewest digits that read back

A positive number is written with the fewest decimal digits that round to it again. On the
grid of `n` digits only the two neighbours of the value can do so; of two that do, the nearer
is taken. `Style` then says where positional notation ends and how an exponent is written.
-/
namespace AlertRelay.Numeric

/-- `coefficient * 10 ^ exponent`. -/
structure Decimal where
  coefficient : Nat
  exponent : Int
  deriving DecidableEq, Repr

namespace Decimal

def numerator (d : Decimal) : Nat := d.coefficient * Nat.pow 10 d.exponent.toNat
def denominator (d : Decimal) : Nat := Nat.pow 10 (-d.exponent).toNat

def digits (n : Nat) : List Char := Nat.toDigits 10 n

/-- The greatest `e` with `10 ^ e ≤ num / den`, for a positive quotient. -/
def leadingExponent (num den : Nat) : Int :=
  let guess : Int := (digits num).length - (digits den).length
  if den * Nat.pow 10 guess.toNat ≤ num * Nat.pow 10 (-guess).toNat then guess else guess - 1

/-- The two neighbours of `num / den` among the multiples of `10 ^ exponent`, the nearer one
first; a tie goes to the even coefficient. -/
def neighbours (num den : Nat) (exponent : Int) : List Decimal :=
  let a := num * Nat.pow 10 (-exponent).toNat
  let b := den * Nat.pow 10 exponent.toNat
  let low : Decimal := ⟨a / b, exponent⟩
  let high : Decimal := ⟨a / b + 1, exponent⟩
  let twice := 2 * (a % b)
  if twice < b || (twice == b && a / b % 2 == 0) then [low, high] else [high, low]

/-- Most significant digits that any number of the formats here needs. -/
def enough : Nat := 17

/-- A decimal with the fewest digits that rounds to `x` in the format `f`. -/
def shortest (f : Format) (x : Magnitude) : Decimal :=
  if x.mantissa = 0 then ⟨0, 0⟩
  else
    let num := x.numerator
    let den := x.denominator
    let top := leadingExponent num den
    let readsBack (d : Decimal) : Bool :=
      Magnitude.round? f d.numerator d.denominator == some x
    ((List.range enough).findSome? fun (n : Nat) =>
      (neighbours num den (top - n)).find? readsBack).getD ⟨num / den, 0⟩

/-- The significant digits and the exponent of the first one. -/
def scientific (d : Decimal) : List Char × Int :=
  let ds := digits d.coefficient
  let kept := (ds.reverse.dropWhile (· == '0')).reverse
  (if kept.isEmpty then ['0'] else kept, ds.length - 1 + d.exponent)

end Decimal

/-- Positional from `10 ^ lowest` up to below `10 ^ highest`, always with a fraction part. -/
structure Style where
  lowest : Int
  highest : Int
  /-- An exponent that is not negative is written with a plus. -/
  plus : Bool
  deriving DecidableEq, Repr

namespace Style

def positional (ds : List Char) (exponent : Int) : List Char :=
  if exponent < 0 then
    '0' :: '.' :: List.replicate (-exponent - 1).toNat '0' ++ ds
  else
    let whole := exponent.toNat + 1
    let fraction := ds.drop whole
    (ds ++ List.replicate (whole - ds.length) '0').take whole ++
      '.' :: (if fraction.isEmpty then ['0'] else fraction)

def exponential (plus : Bool) (ds : List Char) (exponent : Int) : List Char :=
  let point := match ds with
    | d :: e :: r => d :: '.' :: e :: r
    | short => short
  let sign := if exponent < 0 then ['-'] else if plus then ['+'] else []
  point ++ 'e' :: sign ++ Decimal.digits exponent.natAbs

def magnitude (s : Style) (f : Format) (x : Magnitude) : List Char :=
  let (ds, exponent) := (Decimal.shortest f x).scientific
  if x.mantissa = 0 then ['0', '.', '0']
  else if s.lowest ≤ exponent && exponent < s.highest then positional ds exponent
  else exponential s.plus ds exponent

def write (s : Style) (f : Format) : Binary → String
  | .finite negative x =>
      String.ofList ((if negative then ['-'] else []) ++ s.magnitude f x)
  | .infinite negative => if negative then "-inf" else "inf"

end Style
end AlertRelay.Numeric
