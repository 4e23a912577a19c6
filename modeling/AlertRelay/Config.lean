import AlertRelay.Text.Blank
import AlertRelay.Text.Path

/-!
# Configuration from the environment

Four variables decide where settings are kept and which origin the monitoring page is served
from.
-/
namespace AlertRelay

structure Config where
  directory : String
  /-- Decides whether the context is secure. -/
  origin : String
  deriving DecidableEq, Repr

namespace Config

def directoryVariable : String := "WARNING_NOTIFIER_CONFIG_DIR"
def originVariable : String := "WARNING_NOTIFIER_ORIGIN"
def defaultOrigin : String := "http://localhost"

/-- A variable that is not blank, as it is. -/
def present? (value? : Option String) : Option String :=
  value?.filter fun v => !(Text.trim v.toList).isEmpty

/-- A blank variable counts as unset; a home directory may be empty. -/
def ofLookup (lookup : String → Option String) : Config where
  directory :=
    (present? (lookup directoryVariable)).getD
      (Text.joinPath (((lookup "HOME").orElse fun _ => lookup "USERPROFILE").getD ".")
        ".config/warning-notifier")
  origin := ((present? (lookup originVariable)).map Text.trimmed).getD defaultOrigin

/-- What the background channel is installed under: the origin with one slash at its end. -/
def scope (c : Config) : String :=
  String.ofList (Text.dropEndWhile (· == '/') c.origin.toList ++ ['/'])

end Config
end AlertRelay
