import AlertRelay.Permission

/-!
# What the surroundings offer

`Environment` is the raw report; `Capabilities` is what a session works with. Without a
notification interface the permission is `unsupported`, whatever the report claims.
-/
namespace AlertRelay

/-- The platform's own account of itself, read once when a session opens. -/
structure Environment where
  notificationApi : Bool
  secureContext : Bool
  permission : Permission
  deriving DecidableEq, Repr

structure Capabilities where
  apiAvailable : Bool
  secureContext : Bool
  permission : Permission
  deriving DecidableEq, Repr

def Environment.capabilities (e : Environment) : Capabilities where
  apiAvailable := e.notificationApi
  secureContext := e.secureContext
  permission := if e.notificationApi then e.permission else .unsupported

/-- What stands in the way of alerts, as far as the user can do something about it. -/
inductive Obstacle where
  | insecureContext | unsupported | blocked
  deriving DecidableEq, Repr

def Obstacle.message : Obstacle → String
  | insecureContext =>
      "Notifications need a secure connection. Open the app over HTTPS or from localhost."
  | unsupported => "Notifications are not supported on this system."
  | blocked => "Notifications are blocked. Allow them in your system settings to enable alerts."

namespace Capabilities

/-- Both are needed before any notification is attempted. -/
def canNotify (c : Capabilities) : Bool := c.apiAvailable && c.permission.isGranted

/-- An insecure context is named first, unless permission was granted all the same. -/
def obstacle? (c : Capabilities) : Option Obstacle :=
  if !c.secureContext && !c.permission.isGranted then some .insecureContext
  else match c.permission with
    | .unsupported => some .unsupported
    | .denied => some .blocked
    | .undecided | .granted => none

end Capabilities
end AlertRelay
