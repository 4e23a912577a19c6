import AlertRelay.Alert
import AlertRelay.Capability
import AlertRelay.Fault
import AlertRelay.Settings

/-!
# What lies outside

A session meets the outside only through these calls. Each answer may depend on how many calls
of its kind came before, so an outside that changes its mind, or fails now and then, is one of
them. A failing call is answered by the reason.
-/
namespace AlertRelay

/-- The alerting surface of the foreground. -/
structure Platform where
  environment : Environment
  prompt : Nat → Except PlatformError Permission
  /-- `none` when the notification was shown. -/
  notify : Nat → Request → Option PlatformError
  tone : Nat → Tone → Playback → Option PlatformError
  /-- Why the device does not open for a detached tone; nobody waits for that. -/
  toneFault : Nat → Option String
  vibrate : Nat → List Nat → Option PlatformError

/-- An installed background channel, as its host describes it. -/
structure Installation where
  capacity : Nat
  /-- A worker of its own takes requests, and reports once it runs. Without one the reports wait
  from the start and nobody takes anything. -/
  staffed : Bool
  deriving DecidableEq, Repr

/-- Installs background channels and shows what their workers take. -/
structure Host where
  install : Nat → String → Except PlatformError Installation
  /-- How the client for a request ends, or why it does not start. -/
  deliver : Nat → Request → Except IoFault ExitStatus

/-- Why a client did not start, if it did not. -/
def launchFault? : Except IoFault ExitStatus → Option IoFault
  | .ok _ => none
  | .error fault => some fault

structure Surroundings where
  platform : Platform
  host : Host
  /-- A fault of a save that the disk itself would have taken. -/
  saveFault : Nat → Option SaveFault

/-- Vibration pattern in milliseconds, alternately on and off. -/
def vibrationPattern : List Nat := [200, 100, 200]

/-- The tone of an alert. -/
def alertTone : Tone where
  frequency := .ofQuotient Numeric.binary32 false 880 1
  milliseconds := 400
  volume := .ofQuotient Numeric.binary32 false 3 10

end AlertRelay
