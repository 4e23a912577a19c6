import AlertRelay.Capability
import AlertRelay.Fault
import AlertRelay.Json.Fault
import AlertRelay.Settings
import AlertRelay.Text.Utf8
import AlertRelay.Trigger

/-!
# What the operator is told

One constructor for each message, with what it speaks of. Level, source and wording are
functions of it.
-/
namespace AlertRelay

/-- What a channel's worker reports of itself. -/
inductive Lifecycle where
  | installed | activated
  /-- It took over delivery for its scope. -/
  | claimed
  deriving DecidableEq, Repr

def Lifecycle.label : Lifecycle → String
  | installed => "Installed"
  | activated => "Activated"
  | claimed => "Claimed"

/-- The two outcomes of a manual test are independent. -/
structure TestOutcome where
  notificationShown : Bool
  soundPlayed : Bool
  deriving DecidableEq, Repr

inductive Level where
  | warn | info | debug
  deriving DecidableEq, Repr

inductive Notice where
  | capabilities (c : Capabilities)
  | settingsUnreadable (path : String)
  | alertsTurnedOff (p : Permission)
  | settingsNotSaved (fault : IoFault)
  | cannotEnable (p : Permission)
  | promptFailed (e : PlatformError)
  | permissionNow (p : Permission)
  | channelFull (scope : String)
  | channelUnattended (scope : String)
  | channelWithoutApi
  | channelInsecure
  | channelRegistered (scope : String)
  | channelFailed (e : PlatformError)
  | channelReport (scope : String) (event : Lifecycle)
  | entryReset (key : String)
  | entrySuppressed (key : String)
  | entryFired (key : String) (count : UInt32)
  | fellBack (tag : String)
  | notShown (tag : String) (e : PlatformError)
  | toneFailed (e : PlatformError)
  /-- The device did not open for a tone on a thread of its own. -/
  | toneLost (reason : String)
  | vibrationFailed (e : PlatformError)
  | withheld (key : String)
  | deliveryExited (status : ExitStatus)
  | deliveryFailed (fault : IoFault)
  | workerRunning (scope : String)
  | workerStopped (scope : String)
  | obstacleAtStart (o : Obstacle)
  | ticked (entries fired delivered : Nat)
  | alertsEnabled
  | alertsNotEnabled (o? : Option Obstacle)
  | alertsDisabled
  | soundSet (on : Bool)
  | tested (outcome : TestOutcome)
  | status (c : Capabilities) (registered : Bool) (settings : Settings)
  | obstacle (o : Obstacle)
  | feedUnreadable (fault : Text.Utf8.Fault)
  | lineSkipped (report : Json.Report)
  | reading (origin directory : String)
  | feedClosed (handled : Nat)
  deriving DecidableEq, Repr

namespace Notice

def level : Notice → Level
  | settingsUnreadable _ | alertsTurnedOff _ | settingsNotSaved _ | promptFailed _
  | channelFull _ | channelUnattended _ | channelFailed _ | notShown .. | toneFailed _
  | toneLost _ | vibrationFailed _ | deliveryExited _ | deliveryFailed _ | obstacleAtStart _
  | alertsNotEnabled _ | feedUnreadable _ | lineSkipped _ => .warn
  | entryReset _ | entrySuppressed _ | withheld _ | workerRunning _ | workerStopped _ => .debug
  | _ => .info

/-- The part of the program that speaks. -/
def source : Notice → String
  | capabilities _ => "warning_notifier::core::capability"
  | settingsUnreadable _ => "warning_notifier::core::config"
  | alertsTurnedOff _ | settingsNotSaved _ | cannotEnable _ => "warning_notifier::core::context"
  | promptFailed _ | permissionNow _ => "warning_notifier::core::permission"
  | channelFull _ | channelUnattended _ | channelWithoutApi | channelInsecure
  | channelRegistered _ | channelFailed _ | channelReport .. => "warning_notifier::core::channel"
  | entryReset _ | entrySuppressed _ | entryFired .. => "warning_notifier::core::alerts::engine"
  | fellBack _ | notShown .. | toneFailed _ | vibrationFailed _ | withheld _ =>
      "warning_notifier::core::alerts::dispatcher"
  | toneLost _ | deliveryExited _ | deliveryFailed _ | workerRunning _ | workerStopped _ =>
      "warning_notifier::core::platform::desktop"
  | _ => "warning_notifier::app"

def text : Notice → String
  | capabilities c =>
      "Capabilities: api=" ++ toString c.apiAvailable ++ " secure=" ++ toString c.secureContext
        ++ " permission=" ++ c.permission.label
  | settingsUnreadable path => "Ignoring unreadable settings at " ++ Text.quotedPath path
  | alertsTurnedOff p =>
      "Alerts were enabled but permission is " ++ p.label ++ ", turning them off"
  | settingsNotSaved fault => "Failed to save settings: " ++ fault.message
  | cannotEnable p => "Cannot enable alerts, permission is " ++ p.label
  | promptFailed e => "Permission request failed, treating as denied: " ++ e.message
  | permissionNow p => "Notification permission is now " ++ p.label
  | channelFull scope => "Delivery channel " ++ scope ++ " is full"
  | channelUnattended scope => "Delivery channel " ++ scope ++ " has no worker"
  | channelWithoutApi => "Background delivery skipped: notification API missing"
  | channelInsecure => "Background delivery skipped: insecure context"
  | channelRegistered scope => "Background delivery channel registered for " ++ scope
  | channelFailed e => "Background delivery channel registration failed: " ++ e.message
  | channelReport scope event => "Delivery channel " ++ scope ++ ": " ++ event.label
  | entryReset key => "Entry " ++ key ++ " back to zero warnings"
  | entrySuppressed key => "Entry " ++ key ++ " already alerted, suppressing"
  | entryFired key count =>
      "Entry " ++ key ++ " rose to " ++ toString count.toNat ++ " warnings, firing"
  | fellBack tag => "Falling back to foreground delivery for " ++ tag
  | notShown tag e => "Failed to show notification " ++ tag ++ ": " ++ e.message
  | toneFailed e => "Alert tone failed: " ++ e.message
  | toneLost reason => "Alert tone failed: " ++ reason
  | vibrationFailed e => "Vibration failed: " ++ e.message
  | withheld key => "Not delivering " ++ key ++ ": notifications unavailable"
  | deliveryExited how => "Background notification exited with " ++ how.message
  | deliveryFailed fault => "Background notification failed: " ++ fault.message
  | workerRunning scope => "Delivery worker running for " ++ scope
  | workerStopped scope => "Delivery worker for " ++ scope ++ " stopped"
  | obstacleAtStart o => o.message
  | ticked entries fired delivered =>
      "Tick: " ++ toString entries ++ " entries, " ++ toString fired ++ " alerts fired, "
        ++ toString delivered ++ " delivered"
  | alertsEnabled => "Alerts enabled"
  | alertsNotEnabled o? =>
      "Alerts not enabled: " ++ (o?.map Obstacle.message).getD "permission not granted"
  | alertsDisabled => "Alerts disabled"
  | soundSet on => "Alert sound " ++ (if on then "on" else "off")
  | tested outcome =>
      "Test alert: notification shown=" ++ toString outcome.notificationShown
        ++ ", sound played=" ++ toString outcome.soundPlayed
  | status c registered settings =>
      "Status: permission=" ++ c.permission.label ++ " secure=" ++ toString c.secureContext
        ++ " channel=" ++ toString registered ++ " settings=" ++ settings.describe
  | obstacle o => o.message
  | feedUnreadable fault => "Failed to read feed: " ++ fault.message
  | lineSkipped report => "Skipping malformed feed line: " ++ report.message
  | reading origin directory =>
      "Reading detection feed from stdin (origin " ++ origin ++ ", settings in "
        ++ Text.quotedPath directory ++ ")"
  | feedClosed handled => "Feed closed after " ++ toString handled ++ " messages"

/-- What is said of an observation; an entry that stays at zero is passed over. -/
def ofObservation? (o : Observation) : Option Notice :=
  match o.transition with
  | .reset => some (entryReset o.key)
  | .suppressed => some (entrySuppressed o.key)
  | .fire => some (entryFired o.key (observed o.count))
  | .unchanged => none

end Notice
end AlertRelay
