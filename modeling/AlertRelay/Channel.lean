import AlertRelay.Notice

/-!
# The background channel

A bounded queue between the foreground, which offers requests and never waits, and a worker,
which takes them in the order they were accepted, starts a client for each and waits for that to
end before it takes the next. The worker reports its lifecycle once, when it begins, and stops
only after the foreground end is gone and the queue is empty.
-/
namespace AlertRelay

inductive Worker where
  /-- Nobody takes requests, though the receiving end is held. -/
  | idle
  /-- Installed and not yet begun. -/
  | waiting
  | running
  /-- The client for a request runs; `status` is how it will end. -/
  | busy (r : Request) (status : ExitStatus)
  /-- The receiving end is gone. -/
  | gone
  deriving DecidableEq, Repr

structure Channel where
  scope : String
  capacity : Nat
  /-- Accepted and not yet taken, oldest first. -/
  queue : List Request
  /-- Reports that the foreground has not collected, oldest first. -/
  unread : List Lifecycle
  worker : Worker
  /-- The foreground end is gone. -/
  closed : Bool
  deriving DecidableEq, Repr

/-- The answer to an offer. -/
inductive Offer where
  | accepted | full | unattended
  deriving DecidableEq, Repr

/-- What a worker reports on beginning, in this order. -/
def lifecycle : List Lifecycle := [.installed, .activated, .claimed]

namespace Channel

def install (scope : String) (capacity : Nat) (staffed : Bool) : Channel where
  scope := scope
  capacity := capacity
  queue := []
  unread := if staffed then [] else lifecycle
  worker := if staffed then .waiting else .idle
  closed := false

/-- A receiving end that is gone is noticed before a full queue. -/
def offer (c : Channel) (r : Request) : Channel × Offer :=
  if c.worker = .gone then (c, .unattended)
  else if c.queue.length < c.capacity then ({ c with queue := c.queue ++ [r] }, .accepted)
  else (c, .full)

/-- The foreground collects the reports. -/
def collect (c : Channel) : Channel × List Lifecycle := ({ c with unread := [] }, c.unread)

def close (c : Channel) : Channel := { c with closed := true }

def begin? (c : Channel) : Option Channel :=
  if c.worker = .waiting then some { c with worker := .running, unread := c.unread ++ lifecycle }
  else none

/-- The worker takes the oldest request. -/
def take? (c : Channel) : Option (Request × Channel) :=
  match c.worker, c.queue with
  | .running, r :: rest => some (r, { c with queue := rest })
  | _, _ => none

/-- The worker has started a client. -/
def await (c : Channel) (r : Request) (status : ExitStatus) : Channel :=
  { c with worker := .busy r status }

/-- The client that the worker waits for ends. -/
def finish? (c : Channel) : Option (Request × ExitStatus × Channel) :=
  match c.worker with
  | .busy r status => some (r, status, { c with worker := .running })
  | _ => none

def stop? (c : Channel) : Option Channel :=
  if c.worker = .running ∧ c.queue = [] ∧ c.closed then some { c with worker := .gone } else none

/-- The receiving end goes away with whatever is queued. -/
def abandon (c : Channel) : Channel := { c with worker := .gone, queue := [] }

/-- Everything queued is taken out at the receiving end. -/
def empty (c : Channel) : Channel × List Request := ({ c with queue := [] }, c.queue)

end Channel
end AlertRelay
