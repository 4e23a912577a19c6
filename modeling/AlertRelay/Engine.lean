import AlertRelay.Settings
import AlertRelay.Trigger
import Std.Data.ExtTreeSet

/-!
# The engine that decides when to alert

It remembers the keys that fired since their count was last zero. While alerts are disabled
nothing is recorded or forgotten, so turning them on again does not replay what alerted before.
-/
namespace AlertRelay

structure Engine where
  notified : Std.ExtTreeSet String

namespace Engine

def new : Engine := ⟨∅⟩

def stateOf (e : Engine) (key : String) : EntryState :=
  if e.notified.contains key then .notified else .idle

/-- What is remembered of a key after a transition. -/
def apply (e : Engine) (key : String) : Transition → Engine
  | .reset => ⟨e.notified.erase key⟩
  | .fire => ⟨e.notified.insert key⟩
  | .suppressed | .unchanged => e

/-- One count, alerts being enabled. -/
def observe (e : Engine) (key : String) (count : Option UInt32) : Engine × Observation :=
  let t := Transition.of (e.stateOf key) count
  (e.apply key t, ⟨key, count, t⟩)

/-- Counts one after the other. -/
def observeAll (e : Engine) : List (String × Option UInt32) → Engine × List Observation
  | [] => (e, [])
  | (key, count) :: rest =>
      let (e, o) := e.observe key count
      let (e, os) := e.observeAll rest
      (e, o :: os)

/-- Keys that alerted before and are not in the batch. -/
def vanished (e : Engine) (batch : Batch) : List String :=
  e.notified.toList.filter fun key => !batch.contains key

/-- One entry under the settings at hand. -/
def evaluateEntry (e : Engine) (key : String) (count : Option UInt32) (settings : Settings) :
    Engine × List Observation :=
  if settings.enabled then e.observeAll [(key, count)] else (e, [])

/-- One poll under the settings at hand: the batch in order of its keys, then without a count the
keys that alerted and are missing from it. -/
def evaluate (e : Engine) (batch : Batch) (settings : Settings) : Engine × List Observation :=
  if settings.enabled then
    let (e, seen) := e.observeAll batch.toList
    let (e, missing) := e.observeAll ((e.vanished batch).map fun key => (key, none))
    (e, seen ++ missing)
  else (e, [])

def isNotified (e : Engine) (key : String) : Bool := e.notified.contains key

end Engine

/-- The alerts that some observations call for. -/
def decisionsOf (os : List Observation) : List Decision := os.filterMap Observation.decision?

end AlertRelay
