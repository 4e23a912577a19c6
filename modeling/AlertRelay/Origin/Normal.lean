import AlertRelay.Origin.Canonical

/-!
# Composed normal form

A text is taken apart into base characters and marks, marks are put in the order of their
combining classes, and then each base is composed with what follows it as far as possible.
-/
namespace AlertRelay.Origin.Normal

namespace Hangul

def base : Nat := 0xAC00
def leads : Nat := 0x1100
def vowels : Nat := 0x1161
def trails : Nat := 0x11A7
def vowelCount : Nat := 21
def trailCount : Nat := 28
def count : Nat := 19 * vowelCount * trailCount

def decompose? (n : Nat) : Option (List Nat) :=
  if base ≤ n && n < base + count then
    let k := n - base
    let l := leads + k / (vowelCount * trailCount)
    let v := vowels + k % (vowelCount * trailCount) / trailCount
    let t := k % trailCount
    some (if t = 0 then [l, v] else [l, v, trails + t])
  else none

def compose? (a b : Nat) : Option Nat :=
  if leads ≤ a && a < leads + 19 && vowels ≤ b && b < vowels + vowelCount then
    some (base + ((a - leads) * vowelCount + (b - vowels)) * trailCount)
  else if base ≤ a && a < base + count && (a - base) % trailCount == 0
      && trails < b && b < trails + trailCount then
    some (a + (b - trails))
  else none

end Hangul

/-- Below this no character takes part in any decomposition. -/
def inert : Nat := 0xC0

def decompose (n : Nat) : List Nat :=
  if n < inert then [n]
  else match Hangul.decompose? n with
    | some parts => parts
    | none => (Table.find? decompositions n).getD [n]

def combiningClass (n : Nat) : Nat :=
  if n < 0x300 then 0
  else match Table.find? combiningClasses n with
    | some (c :: _) => c
    | _ => 0

def compose? (a b : Nat) : Option Nat :=
  match Hangul.compose? a b with
  | some c => some c
  | none => (compositions.find? fun r => r.targets == [a, b]).map (·.first)

/-- Put a character behind those before it, newest first, passing marks of a higher class. -/
def insert (n : Nat) : List Nat → List Nat
  | [] => [n]
  | m :: rest =>
      if combiningClass n ≠ 0 ∧ combiningClass n < combiningClass m then m :: insert n rest
      else n :: m :: rest

def ordered (ns : List Nat) : List Nat := (ns.foldl (fun done n => insert n done) []).reverse

/-- A base that may still be composed, with what stands before it and the marks that were not
composed into it, both newest first. -/
structure Pending where
  before : List Nat
  base? : Option Nat
  marks : List Nat

namespace Pending

def flush (p : Pending) : List Nat := p.marks ++ p.base?.toList ++ p.before

/-- A character composes with the base unless a character between them is in the way. -/
def blocked (p : Pending) (n : Nat) : Bool :=
  match p.marks with
  | [] => false
  | m :: _ => combiningClass m == 0 || combiningClass n ≤ combiningClass m

def add (p : Pending) (n : Nat) : Pending :=
  let composed? := if p.blocked n then none else p.base?.bind fun b => compose? b n
  match composed? with
  | some c => { p with base? := some c }
  | none =>
      if combiningClass n = 0 then ⟨p.flush, some n, []⟩
      else if p.base?.isNone then { p with before := n :: p.before }
      else { p with marks := n :: p.marks }

end Pending

def composed (ns : List Nat) : List Nat :=
  (ns.foldl Pending.add ⟨[], none, []⟩).flush.reverse

/-- The composed normal form of a text. -/
def normalize (cs : List Char) : List Char :=
  if cs.all fun c => c.toNat < inert then cs
  else (composed (ordered (cs.flatMap fun c => decompose c.toNat))).map Char.ofNat

end AlertRelay.Origin.Normal
