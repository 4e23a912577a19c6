import AlertRelay.Notice
import AlertRelay.Store
import AlertRelay.Surroundings

/-!
# Calls on the outside and their journal

Every call and every message to the operator is entered in a journal, newest first. The number
of earlier calls of a kind, which decides the answer of the next, is read off the journal.
-/
namespace AlertRelay

inductive Event where
  | noted (n : Notice)
  | surveyed (e : Environment)
  | prompted (answer : Except PlatformError Permission)
  | notified (r : Request) (refusal? : Option PlatformError)
  | toned (t : Tone) (p : Playback) (refusal? : Option PlatformError)
  | vibrated (pattern : List Nat) (refusal? : Option PlatformError)
  | installed (scope : String) (outcome : Except PlatformError Installation)
  | offered (r : Request) (accepted : Bool)
  /-- The client for a request was started in the background, or did not start. -/
  | launched (r : Request) (fault? : Option IoFault)
  /-- A client that was started in the background has ended. -/
  | exited (r : Request) (status : ExitStatus)
  /-- The thread of the tone with this number came to open the device. -/
  | opened (n : Nat) (fault? : Option String)
  | saved (s : Settings) (fault? : Option IoFault)

namespace Event

def notice? : Event → Option Notice
  | noted n => some n
  | _ => none

def isPrompt : Event → Bool
  | prompted _ => true
  | _ => false

def isNotification : Event → Bool
  | notified .. => true
  | _ => false

def isTone : Event → Bool
  | toned .. => true
  | _ => false

def isVibration : Event → Bool
  | vibrated .. => true
  | _ => false

def isInstall : Event → Bool
  | installed .. => true
  | _ => false

def isDelivery : Event → Bool
  | launched .. => true
  | _ => false

/-- A tone was left to a thread of its own. -/
def isDetached : Event → Bool
  | toned _ .detached none => true
  | _ => false

def isOpeningOf (n : Nat) : Event → Bool
  | opened m _ => m == n
  | _ => false

def isSave : Event → Bool
  | saved .. => true
  | _ => false

end Event

structure World where
  outside : Surroundings
  disk : Disk
  journal : List Event

namespace World

def enter (w : World) (e : Event) : World := { w with journal := e :: w.journal }

def note (w : World) (n : Notice) : World := w.enter (.noted n)

def noteAll (w : World) (ns : List Notice) : World := ns.foldl note w

/-- How many calls of a kind there have been. -/
def count (w : World) (kind : Event → Bool) : Nat := w.journal.countP kind

def survey (w : World) : World × Environment :=
  let e := w.outside.platform.environment
  (w.enter (.surveyed e), e)

def prompt (w : World) : World × Except PlatformError Permission :=
  let answer := w.outside.platform.prompt (w.count Event.isPrompt)
  (w.enter (.prompted answer), answer)

def notify (w : World) (r : Request) : World × Option PlatformError :=
  let refusal? := w.outside.platform.notify (w.count Event.isNotification) r
  (w.enter (.notified r refusal?), refusal?)

def tone (w : World) (t : Tone) (p : Playback) : World × Option PlatformError :=
  let refusal? := w.outside.platform.tone (w.count Event.isTone) t p
  (w.enter (.toned t p refusal?), refusal?)

def vibrate (w : World) (pattern : List Nat) : World × Option PlatformError :=
  let refusal? := w.outside.platform.vibrate (w.count Event.isVibration) pattern
  (w.enter (.vibrated pattern refusal?), refusal?)

def install (w : World) (scope : String) : World × Except PlatformError Installation :=
  let outcome := w.outside.host.install (w.count Event.isInstall) scope
  (w.enter (.installed scope outcome), outcome)

/-- Start a client in the background. Only a failure to start shows at once. -/
def launch (w : World) (r : Request) : World × Except IoFault ExitStatus :=
  let outcome := w.outside.host.deliver (w.count Event.isDelivery) r
  (w.enter (.launched r (launchFault? outcome)), outcome)

/-- The tone calls, oldest first. Their numbers start at zero. -/
def tones (w : World) : List Event := (w.journal.filter Event.isTone).reverse

/-- The tone with this number was left to a thread of its own, which has yet to open the device. -/
def isUnopened (w : World) (n : Nat) : Bool :=
  w.tones[n]?.any Event.isDetached && !w.journal.any (Event.isOpeningOf n)

/-- The thread of a tone comes to open the device. -/
def openDevice (w : World) (n : Nat) : World × Option String :=
  let fault? := w.outside.platform.toneFault n
  (w.enter (.opened n fault?), fault?)

def save (w : World) (s : Settings) : World × Option IoFault :=
  let (disk, fault?) := w.disk.save s (w.outside.saveFault (w.count Event.isSave))
  ({ w with disk := disk }.enter (.saved s fault?), fault?)

def load (w : World) : World × Settings :=
  match w.disk.slot.load with
  | .unreadable => (w.note (.settingsUnreadable w.disk.path), .default)
  | loaded => (w, loaded.settings)

end World
end AlertRelay
