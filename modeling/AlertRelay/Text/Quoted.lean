import AlertRelay.Text.Visible

/-!
# Quoted text in messages

A value is put between double quotes, and whatever a reader could not make out is escaped. A
path escapes the single quote as well.
-/
namespace AlertRelay.Text

def hexadecimal (n : Nat) : List Char := Nat.toDigits 16 n

/-- A character between double quotes; `single` says whether `'` is escaped too. -/
def escaped (single : Bool) (c : Char) : List Char :=
  if c == '\x00' then ['\\', '0']
  else if c == '\t' then ['\\', 't']
  else if c == '\r' then ['\\', 'r']
  else if c == '\n' then ['\\', 'n']
  else if c == '\\' then ['\\', '\\']
  else if c == '"' then ['\\', '"']
  else if c == '\'' && single then ['\\', '\'']
  else if isExtending c || isUnseen c then
    ['\\', 'u', '\x7b'] ++ hexadecimal c.toNat ++ ['\x7d']
  else [c]

def quotedBy (single : Bool) (s : String) : String :=
  String.ofList ('"' :: s.toList.flatMap (escaped single) ++ ['"'])

def quoted (s : String) : String := quotedBy false s

def quotedPath (s : String) : String := quotedBy true s

end AlertRelay.Text
