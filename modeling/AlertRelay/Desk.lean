import AlertRelay.Channel
import AlertRelay.World

/-!
# The desk: alerts on their way out

A desk holds the outside world and the background channel, if one was installed. The channel is
tried for once; whatever came of it stands for the rest of the session. Nothing else depends on
its being there: a request that it does not take is shown from the foreground.
-/
namespace AlertRelay

structure Desk where
  world : World
  /-- Registration was tried. -/
  attempted : Bool
  channel? : Option Channel

/-- Which way a request may go. -/
inductive Route where
  | channelFirst | foregroundOnly
  deriving DecidableEq, Repr

namespace Desk

def new (w : World) : Desk := ⟨w, false, none⟩

def note (d : Desk) (n : Notice) : Desk := { d with world := d.world.note n }

def noteAll (d : Desk) (ns : List Notice) : Desk := { d with world := d.world.noteAll ns }

def isRegistered (d : Desk) : Bool := d.channel?.isSome

/-- Try for the background channel, the first time; later calls repeat the first outcome. -/
def register (d : Desk) (c : Capabilities) (scope : String) : Desk × Bool :=
  if d.attempted then (d, d.isRegistered)
  else
    let d := { d with attempted := true }
    if !c.apiAvailable then (d.note .channelWithoutApi, false)
    else if !c.secureContext then (d.note .channelInsecure, false)
    else
      let (world, outcome) := d.world.install scope
      let d := { d with world := world }
      match outcome with
      | .ok i =>
          ({ d with channel? := some (.install scope i.capacity i.staffed) }.note
            (.channelRegistered scope), true)
      | .error e => (d.note (.channelFailed e), false)

/-- Collect what the worker reported since the last time, and tell the operator. -/
def poll (d : Desk) : Desk × List Lifecycle :=
  match d.channel? with
  | none => (d, [])
  | some c =>
      let (c, events) := c.collect
      ({ d with channel? := some c }.noteAll (events.map (.channelReport c.scope)), events)

/-- Offer a request to the channel; a refusal is told to the operator. -/
def offer (d : Desk) (c : Channel) (r : Request) : Desk × Bool :=
  let (c, reply) := c.offer r
  let d := { d with channel? := some c, world := d.world.enter (.offered r (reply == .accepted)) }
  match reply with
  | .accepted => (d, true)
  | .full => (d.note (.channelFull c.scope), false)
  | .unattended => (d.note (.channelUnattended c.scope), false)

/-- Show a request from the foreground. -/
def notify (d : Desk) (r : Request) : Desk × Bool :=
  let (world, refusal?) := d.world.notify r
  let d := { d with world := world }
  match refusal? with
  | none => (d, true)
  | some e => (d.note (.notShown r.tag e), false)

/-- Get a request shown, through the channel where the route allows and there is one. -/
def present (d : Desk) (route : Route) (r : Request) : Desk × Bool :=
  match route, d.channel? with
  | .channelFirst, some c =>
      match d.offer c r with
      | (d, true) => (d, true)
      | (d, false) => (d.note (.fellBack r.tag)).notify r
  | _, _ => d.notify r

/-- Tone and vibration, whose failures are told and otherwise ignored. The answer is whether the
tone played; of a detached one only failures before the device is touched are known. -/
def feedback (d : Desk) (p : Playback) : Desk × Bool :=
  let (world, refusal?) := d.world.tone alertTone p
  let d := { d with world := world }
  let d := match refusal? with
    | none => d
    | some e => d.note (.toneFailed e)
  let (world, still?) := d.world.vibrate vibrationPattern
  let d := { d with world := world }
  let d := match still? with
    | none => d
    | some e => d.note (.vibrationFailed e)
  (d, refusal?.isNone)

/-- Deliver one alert. The answer is whether it was shown or accepted by the channel; sound and
vibration do not count. -/
def dispatch (d : Desk) (route : Route) (c : Capabilities) (s : Settings) (alert : Decision) :
    Desk × Bool :=
  if !c.canNotify then (d.note (.withheld alert.key), false)
  else
    let (d, delivered) := d.present route alert.request
    if s.soundEnabled then ((d.feedback .detached).1, delivered) else (d, delivered)

/-- Deliver alerts in their order, counting those that were delivered. -/
def dispatchAll (d : Desk) (c : Capabilities) (s : Settings) : List Decision → Desk × Nat
  | [] => (d, 0)
  | alert :: rest =>
      let (d, delivered) := d.dispatch .channelFirst c s alert
      let (d, n) := d.dispatchAll c s rest
      (d, if delivered then n + 1 else n)

/-- The manual test. Sound is tried even when no notification may be shown. -/
def test (d : Desk) (route : Route) (c : Capabilities) : Desk × TestOutcome :=
  let (d, shown) := if c.canNotify then d.present route .manualTest else (d, false)
  let (d, played) := d.feedback .confirmed
  (d, ⟨shown, played⟩)

/-! ## The worker's side -/

/-- The worker begins, if it is still to. -/
def begin (d : Desk) : Desk :=
  match d.channel?.bind Channel.begin? with
  | some c => { d with channel? := some c }.note (.workerRunning c.scope)
  | none => d

/-- The worker takes one request, if there is one, and starts the client for it. A client that does
not start is told to the operator, and leaves the worker free. -/
def take (d : Desk) : Desk :=
  match d.channel?.bind Channel.take? with
  | none => d
  | some (r, c) =>
      let (world, outcome) := d.world.launch r
      let d := { d with world := world }
      match outcome with
      | .ok status => { d with channel? := some (c.await r status) }
      | .error fault => { d with channel? := some c }.note (.deliveryFailed fault)

/-- The client that the worker waits for ends; that it ended badly is told to the operator. -/
def finish (d : Desk) : Desk :=
  match d.channel?.bind Channel.finish? with
  | none => d
  | some (r, status, c) =>
      let d := { d with channel? := some c, world := d.world.enter (.exited r status) }
      if status.isSuccess then d else d.note (.deliveryExited status)

/-- The worker stops, if nothing can come any more. -/
def stop (d : Desk) : Desk :=
  match d.channel?.bind Channel.stop? with
  | some c => { d with channel? := some c }.note (.workerStopped c.scope)
  | none => d

/-- The worker shows one request, if there is one. -/
def takeNext (d : Desk) : Desk := d.take.finish

/-- How many requests are queued. -/
def backlog (d : Desk) : Nat := (d.channel?.map fun c => c.queue.length).getD 0

/-- The worker moves on until it waits for a client, or for a request. -/
def advance (d : Desk) : Desk := d.backlog.repeat take d

/-- The worker runs until it has shown everything queued. -/
def settle (d : Desk) : Desk :=
  let d := d.begin.finish
  d.backlog.repeat takeNext d

/-- The foreground end goes away, the worker runs out and stops. The desk is as new, but for the
world. -/
def windUp (d : Desk) : Desk :=
  .new { d with channel? := d.channel?.map Channel.close }.settle.stop.world

/-! ## Tones on threads of their own -/

/-- The thread of a detached tone comes to open the device; a failure is told to the operator. -/
def openTone (d : Desk) (n : Nat) : Desk :=
  if d.world.isUnopened n then
    let (world, fault?) := d.world.openDevice n
    let d := { d with world := world }
    match fault? with
    | none => d
    | some reason => d.note (.toneLost reason)
  else d

end Desk
end AlertRelay
