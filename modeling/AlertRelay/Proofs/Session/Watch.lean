import AlertRelay.Program
import AlertRelay.Proofs.Desk.Shift
import AlertRelay.Proofs.Session.Step

/-!
# A session and its worker side by side

The foreground hears one message after the other. A poll is taken apart: its alerts are decided on at
once and dispatched one by one, and the worker may move before, between and after them. Left alone,
the foreground comes to what the session makes of the message.
-/
namespace AlertRelay

/-- A poll whose alerts are not all dispatched. -/
structure Poll where
  entries : Nat
  fired : Nat
  pending : List Decision
  delivered : Nat

structure Watch where
  session : Session
  poll? : Option Poll
  /-- Every alert decided on so far, in order. -/
  fired : List Decision

namespace Watch

inductive Move where
  | hear (m : Feed.Message)
  /-- The next alert of the poll is dispatched, or its end is told. -/
  | proceed
  /-- The foreground lets go of its end. -/
  | hangUp
  | begin
  | take
  | finish
  | stop
  | openTone (n : Nat)

/-- The foreground can hear a message. -/
def isFree (x : Watch) : Bool := x.poll?.isNone && !x.session.desk.channel?.any Channel.closed

/-- The worker moves as at any desk. -/
def shifted (x : Watch) (move : Desk.Move) : Watch :=
  { x with session.desk := move.apply x.session.desk }

def hear (x : Watch) : Feed.Message → Watch
  | .entries batch =>
      let (desk, _) := x.session.desk.poll
      let (engine, os) := x.session.engine.evaluate batch x.session.settings
      let desk := desk.noteAll (os.filterMap Notice.ofObservation?)
      let decisions := decisionsOf os
      { x with
        session := { x.session with desk := desk, engine := engine }
        poll? := some ⟨batch.size, decisions.length, decisions, 0⟩
        fired := x.fired ++ decisions }
  | m => { x with session := x.session.handle m }

def proceed (x : Watch) (p : Poll) : Watch :=
  match p.pending with
  | alert :: rest =>
      let (desk, delivered) := x.session.desk.dispatch .channelFirst x.session.capabilities
        x.session.settings alert
      { x with
        session.desk := desk
        poll? := some { p with
          pending := rest
          delivered := if delivered then p.delivered + 1 else p.delivered } }
  | [] =>
      { x with
        session := if p.fired = 0 then x.session
          else x.session.note (.ticked p.entries p.fired p.delivered)
        poll? := none }

/-- A move that is not possible changes nothing. -/
def apply (x : Watch) : Move → Watch
  | .hear m => if x.isFree then x.hear m else x
  | .proceed => x.poll?.elim x x.proceed
  | .hangUp => if x.isFree then x.shifted .hangUp else x
  | .begin => x.shifted .begin
  | .take => x.shifted .take
  | .finish => x.shifted .finish
  | .stop => x.shifted .stop
  | .openTone n => x.shifted (.openTone n)

def run (x : Watch) (moves : List Move) : Watch := moves.foldl apply x

theorem run_append (x : Watch) (moves later : List Move) :
    x.run (moves ++ later) = (x.run moves).run later := List.foldl_append

/-- A session that has just been set up. -/
def start (w : World) (scope : String) : Watch := ⟨.setUp w scope, none, []⟩

/-! ## The foreground left alone -/

theorem run_proceed (ds : List Decision) (s : Session) (d : Desk) (entries count delivered : Nat)
    (fired : List Decision) :
    (Watch.mk { s with desk := d } (some ⟨entries, count, ds, delivered⟩) fired).run
        (List.replicate ds.length .proceed) =
      ⟨{ s with desk := (d.dispatchAll s.capabilities s.settings ds).1 },
        some ⟨entries, count, [], delivered + (d.dispatchAll s.capabilities s.settings ds).2⟩,
        fired⟩ := by
  induction ds generalizing d delivered with
  | nil => rfl
  | cons alert rest ih =>
    let sent := d.dispatch .channelFirst s.capabilities s.settings alert
    have others := ih sent.1 (if sent.2 then delivered + 1 else delivered)
    have counted : (d.dispatchAll s.capabilities s.settings (alert :: rest)).2 =
        (if sent.2 then 1 else 0) + (sent.1.dispatchAll s.capabilities s.settings rest).2 := by
      simp only [Desk.dispatchAll, sent]
      split <;> omega
    refine Eq.trans others ?_
    rw [counted, ← Nat.add_assoc]
    split <;> rfl

/-- A poll comes to what the session makes of it. -/
theorem run_hear_entries (x : Watch) (batch : Batch) (free : x.isFree = true) :
    let decisions := (x.session.processBatch batch).2.decisions
    x.run (.hear (.entries batch) :: List.replicate (decisions.length + 1) .proceed) =
      { x with
        session := x.session.handle (.entries batch)
        fired := x.fired ++ decisions } := by
  intro decisions
  obtain ⟨s, poll?, fired⟩ := x
  let after := (s.processBatch batch).1
  let delivered := (s.processBatch batch).2.delivered
  have idle : poll? = none := by simpa using (Bool.and_eq_true_iff.mp free).1
  have heard : (Watch.mk s poll? fired).apply (.hear (.entries batch)) =
      (Watch.mk s poll? fired).hear (.entries batch) := by rw [apply, if_pos free]
  have dispatched : ((Watch.mk s poll? fired).hear (.entries batch)).run
      (List.replicate decisions.length .proceed) =
        ⟨after, some ⟨batch.size, decisions.length, [], 0 + delivered⟩, fired ++ decisions⟩ :=
    run_proceed decisions { s with engine := (s.engine.evaluate batch s.settings).1 } _ _ _ 0 _
  have ended : (Watch.mk after (some ⟨batch.size, decisions.length, [], 0 + delivered⟩)
      (fired ++ decisions)).apply .proceed =
        ⟨s.handle (.entries batch), none, fired ++ decisions⟩ := by
    have told : s.handle (.entries batch) = if decisions.isEmpty then after
        else after.note (.ticked batch.size decisions.length delivered) := rfl
    simp only [List.isEmpty_iff, ← List.length_eq_zero_iff] at told
    rw [told, Nat.zero_add]
    rfl
  have polled := (congrArg (run · (List.replicate decisions.length .proceed)) heard).trans dispatched
  rw [List.replicate_succ', ← List.cons_append, run_append, idle] at *
  exact (congrArg (apply · .proceed) polled).trans ended

end Watch
end AlertRelay
