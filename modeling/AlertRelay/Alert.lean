import Std.Data.ExtTreeMap
import AlertRelay.Numeric.Binary

/-!
# Alerts and the requests made from them

An entry key and its warning count compose one `Decision`; showing it takes a `Request`.
The tag names the source of a request: a later request with the same tag takes the place of
the earlier one on screen.
-/
namespace AlertRelay

/-- The choice to alert for one entry whose count rose from zero. -/
structure Decision where
  key : String
  count : UInt32
  title : String
  body : String
  tag : String
  deriving DecidableEq, Repr

/-- What is handed over to be shown. -/
structure Request where
  title : String
  body : String
  tag : String
  /-- Stay on screen until the user dismisses it. -/
  requireInteraction : Bool
  deriving DecidableEq, Repr

/-- One poll of every tracked entry; `none` where the poller had no count. Keys are in order
of code points, which is also the order of their octets. -/
abbrev Batch := Std.ExtTreeMap String (Option UInt32)

def tagOf (key : String) : String := "detection-" ++ key

def bodyOf (count : UInt32) : String :=
  if count = 1 then "1 suspicious activity warning detected"
  else toString count.toNat ++ " suspicious activity warnings detected"

namespace Decision

def compose (key : String) (count : UInt32) : Decision where
  key := key
  count := count
  title := "Detection alert: " ++ key
  body := bodyOf count
  tag := tagOf key

def request (d : Decision) : Request where
  title := d.title
  body := d.body
  tag := d.tag
  requireInteraction := true

end Decision

/-- The manual test from the settings screen. -/
def Request.manualTest : Request where
  title := "Test notification"
  body := "Detection alerts are working"
  tag := "detection-test"
  requireInteraction := false

/-- A synthesized tone; `volume` is a linear gain. -/
structure Tone where
  frequency : Numeric.Binary
  milliseconds : Nat
  volume : Numeric.Binary
  deriving DecidableEq, Repr

inductive Playback where
  /-- Returns at once. -/
  | detached
  /-- Waits until the device is open, so that the answer says whether sound played. -/
  | confirmed
  deriving DecidableEq, Repr

end AlertRelay
