import AlertRelay.Origin.Mapping
import AlertRelay.Origin.Normal
import AlertRelay.Origin.Property
import AlertRelay.Origin.Punycode
import AlertRelay.Text.Split
import AlertRelay.Text.Visible

/-!
# Labels of host names

A host name is mapped character by character, brought into composed normal form and cut into
labels. A label must not begin with a mark, joiners must stand where they join something, and a
name with a character that runs from right to left must keep to one direction in each label. A
label in its ASCII form must be the encoding of such a label.
-/
namespace AlertRelay.Origin

abbrev Label := List Char

def isAscii (c : Char) : Bool := c.toNat < 0x80

/-- ASCII characters that no host name holds. -/
def isForbidden (c : Char) : Bool :=
  c.toNat ≤ 0x20 || c.toNat == 0x7F || "%#/:<>?@[\\]^|".toList.contains c

def isIn (rs : List (Nat × Nat)) (c : Char) : Bool := Text.inRanges rs c.toNat

/-- A character of a host name, mapped. -/
def mapChar? (c : Char) : Option (List Char) :=
  if isAscii c then some [c.toLower]
  else if isIn kept c then some [c]
  else if isIn dropped c then some []
  else (Table.find? replaced c.toNat).map (·.map Char.ofNat)

def mapChars? (cs : List Char) : Option (List Char) := (cs.mapM mapChar?).map List.flatten

namespace Label

/-- The longest label that is put into ASCII form. -/
def longest : Nat := 1000

/-- The longest ASCII form that is decoded. -/
def longestEncoded : Nat := 2000

def isEncoded (l : Label) : Bool := l.take 4 == ['x', 'n', '-', '-']

/-- The label that an ASCII form stands for: not ASCII alone, of kept characters, in normal form. -/
def decode? (l : Label) : Option Label :=
  let digits := l.drop 4
  if !l.all isAscii || longestEncoded < digits.length then none
  else (Punycode.decode? digits).bind fun d =>
    if !d.all isAscii && (d.all fun c => isAscii c || isIn kept c) && Normal.normalize d == d then
      some d
    else none

/-- A label as it is shown. -/
def shown? (l : Label) : Option Label :=
  if l.isEncoded then l.decode?
  else if l.all isAscii || l.length ≤ longest then some l
  else none

def beginsWithMark : Label → Bool
  | [] => false
  | c :: _ => !isAscii c && isIn mark c

def nonJoiner : Char := '\u200c'
def joiner : Char := '\u200d'

/-- Whether the characters, nearest first, join towards this side. -/
def joins (side : List (Nat × Nat)) : List Char → Bool
  | [] => false
  | c :: rest =>
      if isIn transparent c then joins side rest else isIn joinsBoth c || isIn side c

/-- A joiner follows a virama; a non-joiner follows one too, or parts two characters that would
join. `before` is what precedes, nearest first. -/
def joinersHold (before : List Char) : List Char → Bool
  | [] => true
  | c :: rest =>
      let afterVirama := before.head?.any fun b => !isAscii b && isIn virama b
      (if c = joiner then afterVirama
        else if c = nonJoiner then
          afterVirama || (joins joinsLeft before && joins joinsRight rest)
        else true)
      && joinersHold (c :: before) rest

end Label

/-! ## Direction -/

inductive Direction where
  | left | right | arabicLetter | arabicNumber | europeanNumber | europeanSeparator
  | commonSeparator | europeanTerminator | otherNeutral | boundaryNeutral | nonspacingMark
  deriving DecidableEq, Repr

namespace Direction

def tables : List (Direction × List (Nat × Nat)) :=
  [(right, rightToLeft), (arabicLetter, Origin.arabicLetter),
   (arabicNumber, Origin.arabicNumber), (europeanNumber, Origin.europeanNumber),
   (europeanSeparator, Origin.europeanSeparator), (commonSeparator, Origin.commonSeparator),
   (europeanTerminator, Origin.europeanTerminator), (otherNeutral, Origin.otherNeutral),
   (boundaryNeutral, Origin.boundaryNeutral), (nonspacingMark, Origin.nonspacingMark)]

def of (c : Char) : Direction :=
  ((tables.find? fun t => isIn t.2 c).map (·.1)).getD left

def isRight (d : Direction) : Bool := d == right || d == arabicLetter

/-- Its presence makes a name one that is checked for direction. -/
def isDecisive (d : Direction) : Bool := d.isRight || d == arabicNumber

def isWeak (d : Direction) : Bool :=
  [europeanSeparator, commonSeparator, europeanTerminator, otherNeutral, boundaryNeutral,
    nonspacingMark].contains d

/-- The last of a label, marks left out. -/
def last? (ds : List Direction) : Option Direction := ds.reverse.find? (· ≠ nonspacingMark)

/-- A label runs in the direction of its first character. -/
def consistent : List Direction → Bool
  | [] => true
  | d :: rest =>
      let ends (ok : Direction → Bool) : Bool := (last? (d :: rest)).any ok
      if d = left then
        rest.all (fun e => e == left || e == europeanNumber || e.isWeak)
          && ends (fun e => e == left || e == europeanNumber)
      else if d.isRight then
        rest.all (fun e => e.isRight || e == arabicNumber || e == europeanNumber || e.isWeak)
          && ends (fun e => e.isRight || e == arabicNumber || e == europeanNumber)
          && !(rest.contains arabicNumber && rest.contains europeanNumber)
      else false

end Direction

/-- The labels of a host name as they are looked up. -/
def labels? (host : List Char) : Option (List Label) :=
  (mapChars? host).bind fun mapped =>
    let text := Normal.normalize mapped
    let ls := Text.split '.' text
    if text.any fun c => isAscii c && isForbidden c then none
    else (ls.mapM Label.shown?).bind fun shown =>
      if shown.any Label.beginsWithMark || !shown.all (Label.joinersHold []) then none
      else
        let directions := shown.map (·.map Direction.of)
        let checked := shown.any fun l => l.any fun c => !isAscii c && (Direction.of c).isDecisive
        if checked && !directions.all Direction.consistent then none
        else if text.isEmpty then none
        else some ls

end AlertRelay.Origin
