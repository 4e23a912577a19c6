import AlertRelay.Alert

/-!
# The rule for one entry

An entry is idle or notified. Only an idle entry with a positive count fires; a zero or missing
count makes it idle again.
-/
namespace AlertRelay

inductive EntryState where
  | idle | notified
  deriving DecidableEq, Repr

inductive Transition where
  /-- The count fell to zero or vanished. -/
  | reset
  /-- Still positive, alerted before. -/
  | suppressed
  /-- Rose from zero. -/
  | fire
  /-- Stayed at zero. -/
  | unchanged
  deriving DecidableEq, Repr

/-- A missing count is a count of zero. -/
def observed (count : Option UInt32) : UInt32 := count.getD 0

def Transition.of (state : EntryState) (count : Option UInt32) : Transition :=
  match state with
  | .notified => if observed count = 0 then .reset else .suppressed
  | .idle => if observed count = 0 then .unchanged else .fire

/-- One count seen for one entry, and what came of it. -/
structure Observation where
  key : String
  count : Option UInt32
  transition : Transition
  deriving DecidableEq, Repr

def Observation.decision? (o : Observation) : Option Decision :=
  if o.transition = .fire then some (.compose o.key (observed o.count)) else none

end AlertRelay
