import AlertRelay.Origin.Site
import AlertRelay.Surroundings

/-!
# Surroundings of a desktop

Notifications are shown by a client program, the background channel is a worker that calls the
same kind of client, and there is no prompt: a client that was found is the permission.
-/
namespace AlertRelay

namespace Request

def applicationName : String := "warning-notifier"

/-- The command line for one notification. Critical urgency keeps it on screen until it is
dismissed; notifications with the same hint take each other's place. -/
def arguments (r : Request) : List String :=
  (if r.requireInteraction then ["--urgency", "critical"] else [])
    ++ ["--app-name", applicationName, "--hint",
      "string:x-canonical-private-synchronous:" ++ r.tag, r.title, r.body]

/-- No argument may hold the character that ends arguments. -/
def isPassable (r : Request) : Bool := r.arguments.all fun a => !a.toList.contains '\x00'

end Request

namespace Desktop

/-- The client program. -/
structure Client where
  path : String
  isFile : Bool
  /-- How a run of it ends, or why it does not start; that may differ from one run to the next. -/
  outcome : Nat → Except IoFault ExitStatus

def clientName : String := "notify-send"

namespace Client

/-- Arguments are checked before the program is started. -/
def run (c : Client) (n : Nat) (r : Request) : Except IoFault ExitStatus :=
  if r.isPassable then c.outcome n else .error .nulByte

end Client

def permission (client? : Option Client) : Permission :=
  if client?.isSome then .granted else .unsupported

/-- Why a notification is not shown, if it is not. -/
def refusal? (client? : Option Client) (n : Nat) (r : Request) : Option PlatformError :=
  match client? with
  | none => some (.unavailable clientName)
  | some c =>
      match c.run n r with
      | .error fault => some (.io fault)
      | .ok status =>
          if status.isSuccess then none
          else some (.rejected (clientName ++ " exited with " ++ status.message))

/-- What becomes of the audio device when a tone's thread comes to open it. -/
structure Opening where
  /-- Soon enough for a caller that waits. -/
  inTime : Bool
  /-- Why it does not open, in the words of the audio system. -/
  fault? : Option String
  deriving DecidableEq, Repr

/-- A tone's thread opens the device. What comes of that shows only to a caller that waits, and only
if it shows in time. -/
def toneRefusal? (o : Opening) : Playback → Option PlatformError
  | .detached => none
  | .confirmed =>
      if o.inTime then o.fault?.map .audio
      else some (.audio "audio device did not open in time")

def platform (origin : String) (client? : Option Client) (device : Nat → Opening) : Platform where
  environment := ⟨client?.isSome, Origin.isSecure origin, permission client?⟩
  prompt := fun _ => .ok (permission client?)
  notify := refusal? client?
  tone := fun n _ p => toneRefusal? (device n) p
  toneFault := fun n => (device n).fault?
  vibrate := fun _ _ => some (.unavailable "vibration")

/-- How many requests a background channel holds. -/
def capacity : Nat := 32

def host (client? : Option Client) : Host where
  install := fun _ _ =>
    match client? with
    | none => .error (.unavailable clientName)
    | some c =>
        if c.isFile then .ok ⟨capacity, true⟩
        else .error (.rejected ("worker executable missing: " ++ c.path))
  deliver := fun n r =>
    match client? with
    | none => .error .notFound
    | some c => c.run n r

/-- What reaches the audio device. -/
structure Sound where
  frequency : Numeric.Binary
  milliseconds : Nat
  gain : Numeric.Binary
  deriving DecidableEq, Repr

/-- A tone as it is played, its gain brought between 0 and 1. -/
def sound? (o : Opening) (t : Tone) : Option Sound :=
  if o.fault?.isNone then
    some ⟨t.frequency, t.milliseconds, t.volume.clampUnit Numeric.binary32⟩
  else none

end Desktop
end AlertRelay
