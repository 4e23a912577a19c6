import AlertRelay.Text.Split

/-!
# Tables of characters as text

Ranges are written `A` or `A-B` in hexadecimal, with blanks between them, on lines. A row adds a colon and
its target code points, with points between those. In a row `A+B` stands for a range, and `A*B`
for every second character of one, whose targets advance along with the characters.
-/
namespace AlertRelay.Origin.Table

/-- One or more characters that share a rule. -/
structure Row where
  first : Nat
  last : Nat
  /-- 0 if all characters have the same targets, else by how much both advance. -/
  stride : Nat
  targets : List Nat
  deriving Inhabited

def digit (c : Char) : Nat := if c.toNat < 58 then c.toNat - 48 else c.toNat - 55

def number (cs : List Char) : Nat := cs.foldl (fun n c => n * 16 + digit c) 0

def words (lines : List String) : List (List Char) :=
  lines.flatMap fun l => Text.split ' ' l.toList

def range (w : List Char) : Nat × Nat :=
  match Text.split '-' w with
  | [a, b] => (number a, number b)
  | _ => (number w, number w)

def ranges (lines : List String) : List (Nat × Nat) := (words lines).map range

def row (w : List Char) : Row :=
  match Text.split ':' w with
  | [span, targets] =>
      let targets := (Text.split '.' targets).map number
      match Text.split '+' span, Text.split '*' span with
      | [a, b], _ => ⟨number a, number b, 1, targets⟩
      | _, [a, b] => ⟨number a, number b, 2, targets⟩
      | _, _ => let (a, b) := range span; ⟨a, b, 0, targets⟩
  | _ => default

def rows (lines : List String) : List Row := (words lines).map row

namespace Row

def covers (r : Row) (n : Nat) : Bool :=
  r.first ≤ n && n ≤ r.last && (r.stride == 0 || (n - r.first) % r.stride == 0)

/-- The targets of a character that the row covers. -/
def targetsOf (r : Row) (n : Nat) : List Nat :=
  if r.stride = 0 then r.targets else r.targets.map (· + (n - r.first))

end Row

def find? (rs : List Row) (n : Nat) : Option (List Nat) :=
  (rs.find? (·.covers n)).map (·.targetsOf n)

end AlertRelay.Origin.Table
