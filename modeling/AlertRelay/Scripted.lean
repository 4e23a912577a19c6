import AlertRelay.Surroundings

/-!
# Surroundings that follow a script

For trials: every answer is laid down beforehand.
-/
namespace AlertRelay.Scripted

structure Script where
  report : Environment
  /-- The answer of the prompt, which fails without one. -/
  answer? : Option Permission
  failNotification : Bool
  failTone : Bool
  failVibration : Bool
  deriving DecidableEq, Repr

def platform (s : Script) : Platform where
  environment := s.report
  prompt := fun _ =>
    match s.answer? with
    | some p => .ok p
    | none => .error (.rejected "prompt failed")
  notify := fun _ _ => if s.failNotification then some (.rejected "notification blocked") else none
  tone := fun _ _ _ => if s.failTone then some (.audio "autoplay blocked") else none
  toneFault := fun _ => none
  vibrate := fun _ _ => if s.failVibration then some (.unavailable "vibration") else none

def capacity : Nat := 8

/-- Nobody takes what is queued. -/
def host (fails : Bool) : Host where
  install := fun _ _ =>
    if fails then .error (.rejected "worker script fetch failed") else .ok ⟨capacity, false⟩
  deliver := fun _ _ => .error .notFound

end AlertRelay.Scripted
