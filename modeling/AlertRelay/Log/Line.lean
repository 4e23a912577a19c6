import AlertRelay.Notice
import AlertRelay.Text.Split

/-!
# Messages as lines

Time, level and source stand in brackets before the text. Lines of a text after its first are
indented.
-/
namespace AlertRelay.Log

/-- All levels take up the same width. -/
def levelColumn : Level → String
  | .warn => "WARN "
  | .info => "INFO "
  | .debug => "DEBUG"

def indent : String := "    "

/-- The lines for a message at a time. -/
def lines (time : String) (n : Notice) : List String :=
  let head := "[" ++ time ++ " " ++ levelColumn n.level ++ " " ++ n.source ++ "] "
  match (Text.split '\n' n.text.toList).map String.ofList with
  | first :: rest => (head ++ first) :: rest.map (indent ++ ·)
  | [] => [head]

end AlertRelay.Log
