/-!
# Punycode

The encoding of a label by ASCII characters: the basic characters of the label, a hyphen, and
digits that say which other characters are inserted where.
-/
namespace AlertRelay.Origin.Punycode

def base : Nat := 36
def tMin : Nat := 1
def tMax : Nat := 26
def skew : Nat := 38
def damp : Nat := 700
def initialBias : Nat := 72
def initialCodePoint : Nat := 0x80

/-- Numbers above this are an overflow. -/
def largest : Nat := 0xFFFFFFFF

def digit? (c : Char) : Option Nat :=
  let n := c.toNat
  if 97 ≤ n && n ≤ 122 then some (n - 97)
  else if 65 ≤ n && n ≤ 90 then some (n - 65)
  else if 48 ≤ n && n ≤ 57 then some (n - 22)
  else none

/-- Divide by `base - tMin` until the rest is small, counting the digits that takes. -/
def shrink (delta k : Nat) : Nat :=
  if delta ≤ (base - tMin) * tMax / 2 then k + (base - tMin + 1) * delta / (delta + skew)
  else shrink (delta / (base - tMin)) (k + base)
termination_by delta
decreasing_by simp only [base, tMin, tMax] at *; omega

def adapt (delta points : Nat) (first : Bool) : Nat :=
  let delta := if first then delta / damp else delta / 2
  shrink (delta + delta / points) 0

def threshold (k bias : Nat) : Nat :=
  if k ≤ bias then tMin else if bias + tMax ≤ k then tMax else k - bias

/-- A number of variable length, and the digits behind it. -/
def numeral? (bias k weight value : Nat) : List Char → Option (Nat × List Char)
  | [] => none
  | c :: rest =>
      match digit? c with
      | none => none
      | some d =>
          let value := value + d * weight
          let t := threshold k bias
          if largest < value then none
          else if d < t then some (value, rest)
          else if largest < weight * (base - t) then none
          else numeral? bias (k + base) (weight * (base - t)) value rest

theorem length_of_numeral? {bias k weight value n : Nat} {cs rest : List Char}
    (h : numeral? bias k weight value cs = some (n, rest)) : rest.length < cs.length := by
  induction cs generalizing k weight value with
  | nil => simp [numeral?] at h
  | cons c cs ih =>
      rw [numeral?] at h
      split at h
      · contradiction
      · dsimp only at h
        split at h
        · contradiction
        · split at h
          · injection h with h
            injection h with _ h
            subst h
            simp
          · split at h
            · contradiction
            · exact Nat.lt_succ_of_lt (ih h)

def insertAt (cs : List Char) (i : Nat) (c : Char) : List Char := cs.take i ++ c :: cs.drop i

/-- Insert the characters that the digits tell of into what has been decoded. -/
def insertions (decoded : List Char) (codePoint index bias : Nat) (cs : List Char) :
    Option (List Char) :=
  if cs.isEmpty then some decoded
  else
    match _h : numeral? bias base 1 index cs with
    | none => none
    | some (i, rest) =>
        let points := decoded.length + 1
        let codePoint := codePoint + i / points
        if Nat.isValidChar codePoint then
          insertions (insertAt decoded (i % points) (Char.ofNat codePoint)) codePoint
            (i % points + 1) (adapt (i - index) points (index == 0)) rest
        else none
termination_by cs.length
decreasing_by exact length_of_numeral? (by assumption)

/-- What stands before the last hyphen, and what behind it. Where nothing stands before it the
hyphen is no separator. -/
def splitLast (cs : List Char) : List Char × List Char :=
  let digits := (cs.reverse.takeWhile (· ≠ '-')).reverse
  let basic := (cs.take (cs.length - digits.length)).dropLast
  if basic.isEmpty then ([], cs) else (basic, digits)

def decode? (cs : List Char) : Option (List Char) :=
  let (basic, digits) := splitLast cs
  if basic.all fun c => c.toNat < 0x80 then
    insertions basic initialCodePoint 0 initialBias digits
  else none

end AlertRelay.Origin.Punycode
