import AlertRelay.Desk
import AlertRelay.Engine

/-!
# A session

A session holds everything that changes: settings, permission, the keys that alerted, the desk.
A stored wish for alerts is dropped when permission is not granted at the start; after that
alerts are enabled only with a granted permission, and settings change only together with
what is stored.
-/
namespace AlertRelay

structure Session where
  desk : Desk
  /-- What the background channel is installed under. -/
  scope : String
  /-- What the surroundings offered at the start. -/
  initial : Capabilities
  permission : Permission
  settings : Settings
  engine : Engine

/-- What one poll came to. -/
structure Tick where
  decisions : List Decision
  delivered : Nat
  deriving DecidableEq, Repr

/-- Read what the surroundings offer, and tell the operator. -/
def World.probe (w : World) : World × Capabilities :=
  let (w, report) := w.survey
  (w.note (.capabilities report.capabilities), report.capabilities)

namespace Session

/-- The wish for alerts is dropped without permission; the record is rewritten then. -/
def reconcile (w : World) (c : Capabilities) (stored : Settings) : World × Settings :=
  if stored.enabled && !c.permission.isGranted then
    let w := w.note (.alertsTurnedOff c.permission)
    let settings := { stored with enabled := false }
    match w.save settings with
    | (w, none) => (w, settings)
    | (w, some fault) => (w.note (.settingsNotSaved fault), settings)
  else (w, stored)

def start (w : World) (scope : String) : Session :=
  let (w, c) := w.probe
  let (w, stored) := w.load
  let (w, settings) := reconcile w c stored
  { desk := .new w, scope := scope, initial := c, permission := c.permission,
    settings := settings, engine := .new }

/-- What was offered at the start, with the permission as it is now. -/
def capabilities (s : Session) : Capabilities := { s.initial with permission := s.permission }

def obstacle? (s : Session) : Option Obstacle := s.capabilities.obstacle?

def note (s : Session) (n : Notice) : Session := { s with desk := s.desk.note n }

/-- Ask for permission, only while it is undecided. A failing prompt counts as a refusal. -/
def requestPermission (s : Session) : Session × Permission :=
  if !s.permission.canPrompt then (s, s.permission)
  else
    let (world, answer) := s.desk.world.prompt
    let s := { s with desk := { s.desk with world := world } }
    let (s, p) : Session × Permission := match answer with
      | .ok p => (s, p)
      | .error e => (s.note (.promptFailed e), .denied)
    ({ s with permission := p }.note (.permissionNow p), p)

def registerChannel (s : Session) : Session × Bool :=
  let (desk, registered) := s.desk.register s.capabilities s.scope
  ({ s with desk := desk }, registered)

/-- Settings become current once they are stored. -/
def persist (s : Session) (settings : Settings) : Session × Bool :=
  let (world, fault?) := s.desk.world.save settings
  let s := { s with desk := { s.desk with world := world } }
  match fault? with
  | none => ({ s with settings := settings }, true)
  | some fault => (s.note (.settingsNotSaved fault), false)

/-- Turn automatic alerts on or off. Turning them on asks for permission where that is open, and
is refused unless permission ends up granted. -/
def setEnabled (s : Session) (enabled : Bool) : Session × Bool :=
  if enabled then
    let (s, p) := s.requestPermission
    if p.isGranted then s.persist { s.settings with enabled := true }
    else (s.note (.cannotEnable p), false)
  else s.persist { s.settings with enabled := false }

def setSound (s : Session) (on : Bool) : Session × Bool :=
  s.persist { s.settings with soundEnabled := on }

/-- Evaluate one poll and deliver whatever fired. -/
def processBatch (s : Session) (batch : Batch) : Session × Tick :=
  let (desk, _) := s.desk.poll
  let (engine, os) := s.engine.evaluate batch s.settings
  let desk := desk.noteAll (os.filterMap Notice.ofObservation?)
  let decisions := decisionsOf os
  let (desk, delivered) := desk.dispatchAll s.capabilities s.settings decisions
  ({ s with desk := desk, engine := engine }, ⟨decisions, delivered⟩)

def test (s : Session) : Session × TestOutcome :=
  let (desk, outcome) := s.desk.test .channelFirst s.capabilities
  ({ s with desk := desk }, outcome)

/-- The session ends, its worker runs out, and another begins in the same world. -/
def restart (s : Session) : Session := .start s.desk.windUp.world s.scope

end Session
end AlertRelay
