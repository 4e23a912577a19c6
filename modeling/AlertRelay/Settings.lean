import AlertRelay.Json.Reader

/-!
# The user's preferences

A stored record is read field by field: a field that is missing or of another kind takes its
default and leaves the other alone.
-/
namespace AlertRelay

structure Settings where
  /-- Automatic alerts on new warnings. -/
  enabled : Bool
  /-- Tone and vibration beside the notification. -/
  soundEnabled : Bool
  deriving DecidableEq, Repr

namespace Settings

def default : Settings := ⟨false, true⟩

def field (record : Json.Value) (name : String) (otherwise : Bool) : Bool :=
  ((record.member? name).bind Json.Value.boolean?).getD otherwise

def ofValue (record : Json.Value) : Settings where
  enabled := field record "enabled" default.enabled
  soundEnabled := field record "sound_enabled" default.soundEnabled

/-- The record as it is stored. -/
def text (s : Settings) : String :=
  "\x7b\n  \"enabled\": " ++ toString s.enabled ++ ",\n  \"sound_enabled\": "
    ++ toString s.soundEnabled ++ "\n\x7d"

/-- The settings as messages show them. -/
def describe (s : Settings) : String :=
  "Settings \x7b enabled: " ++ toString s.enabled ++ ", sound_enabled: "
    ++ toString s.soundEnabled ++ " \x7d"

end Settings
end AlertRelay
