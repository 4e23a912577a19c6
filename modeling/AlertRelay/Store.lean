import AlertRelay.Fault
import AlertRelay.Settings
import AlertRelay.Text.Path
import AlertRelay.Text.Utf8

/-!
# Where settings are kept

One file. Loading never fails: whatever cannot be read counts as the defaults. A save that is
refused leaves the place as it was; one that is broken off leaves the beginning of the record.
-/
namespace AlertRelay

/-- What is found at the place of the settings file. -/
inductive Slot where
  | absent
  | file (octets : List UInt8)
  /-- A directory stands where the file should be. -/
  | folder
  /-- A file stands where the directory should be. -/
  | blocked
  deriving DecidableEq, Repr

structure Disk where
  /-- The path of the settings file as messages show it. -/
  path : String
  slot : Slot
  deriving DecidableEq, Repr

/-- What loading comes to. -/
inductive Loaded where
  | record (s : Settings)
  /-- Text that is no JSON; the operator is told. -/
  | unreadable
  | nothing
  deriving DecidableEq, Repr

def Loaded.settings : Loaded → Settings
  | record s => s
  | unreadable | nothing => .default

def settingsFile : String := "settings.json"

namespace Slot

def load : Slot → Loaded
  | file octets =>
      match Text.Utf8.text? octets with
      | none => .nothing
      | some text =>
          match Json.parse text with
          | .ok record => .record (.ofValue record)
          | .error _ => .unreadable
  | absent | folder | blocked => .nothing

/-- What stands in the way of a save. -/
def obstruction? : Slot → Option IoFault
  | blocked => some .alreadyExists
  | folder => some .isADirectory
  | absent | file _ => none

end Slot

namespace Disk

def inDirectory (directory : String) (slot : Slot) : Disk :=
  ⟨Text.joinPath directory settingsFile, slot⟩

/-- Writes a record, unless the place is obstructed or the write itself fails. -/
def save (d : Disk) (s : Settings) (fault? : Option SaveFault) : Disk × Option IoFault :=
  let record := Text.Utf8.encode s.text.toList
  match d.slot.obstruction?, fault? with
  | some fault, _ => (d, some fault)
  | none, some ⟨fault, none⟩ => (d, some fault)
  | none, some ⟨fault, some n⟩ => ({ d with slot := .file (record.take n) }, some fault)
  | none, none => ({ d with slot := .file record }, none)

end Disk
end AlertRelay
