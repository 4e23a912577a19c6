import AlertRelay.Proofs.Desk.Failures
import AlertRelay.Proofs.Session.Handover
import AlertRelay.Proofs.Session.Sequels

/-!
# No failure is silent and none stops the work

A session calls its surroundings for a prompt, for the channel, for every request, tone and vibration,
for saves and, by its worker, for deliveries. Whichever of these fail, each step tells of its failures
as they show, so over a whole run the warnings are the failures, in the order in which they came to
light. That is the order of the calls, but for clients in the background and tones on their threads,
which fail after the call that started them. And each step goes on after a failure: the rest of an
alert, of a poll and of the queue has its turn.
-/
namespace AlertRelay

namespace Session

open World (Reports reports_enterAll)

variable {refusal? : Option Failure}

theorem promptEntries_reported (answer : Except PlatformError Permission) :
    Reported refusal? (promptEntries answer) := by
  cases answer with
  | ok p => exact .plain rfl rfl (.plain rfl rfl .nil)
  | error e => exact .failed (f := .prompt e) rfl (.plain rfl rfl .nil)

theorem requestPermission_reports (s : Session) :
    s.desk.world.Reports refusal? s.requestPermission.1.desk.world := by
  rw [requestPermission_eq]
  split
  · exact reports_enterAll (promptEntries_reported _) _
  · exact .refl _

theorem note_reports (s : Session) {n : Notice} (silent : n.failure? = none) :
    s.desk.world.Reports refusal? (s.note n).desk.world := by
  have told : Reported refusal? [.noted n] := .plain rfl silent .nil
  exact reports_enterAll told _

/-- A save and what is told of it. -/
theorem save_reports (w : World) (t : Settings) :
    w.Reports refusal? ((w.save t).1.enterAll (faultEntries (w.save t).2)) := by
  rw [World.save_eq]
  refine ⟨.saved t (w.saveOutcome t).2 :: faultEntries (w.saveOutcome t).2, ?_, ?_⟩
  · rw [World.enterAll_enterAll, World.history_enterAll]
    rfl
  · cases (w.saveOutcome t).2 with
    | none => exact .plain rfl rfl .nil
    | some fault => exact .failed (f := .save fault) rfl .nil

theorem persist_reports (s : Session) (t : Settings) :
    s.desk.world.Reports refusal? (s.persist t).1.desk.world := by
  rw [persist_world]
  exact save_reports _ t

theorem setEnabled_reports (s : Session) (on : Bool) :
    s.desk.world.Reports refusal? (s.setEnabled on).1.desk.world := by
  have asked : s.desk.world.Reports refusal? _ := s.requestPermission_reports
  rcases s.setEnabled_cases on with ⟨-, refused⟩ | ⟨-, -, saved⟩ | ⟨-, saved⟩
  · rw [refused]
    exact asked.trans (note_reports _ rfl)
  · rw [saved]
    exact asked.trans (persist_reports _ _)
  · rw [saved]
    exact persist_reports _ _

theorem pollNotices_silent (s : Session) (os : List Observation) :
    ∀ n ∈ s.pollNotices os, n.failure? = none := by
  unfold pollNotices Desk.reportNotices
  refine List.forall_mem_append.mpr ⟨?_, ?_⟩
  · cases s.desk.channel? <;> simp [Notice.failure?]
  · intro n member
    obtain ⟨o, -, observed⟩ := List.mem_filterMap.mp member
    unfold Notice.ofObservation? at observed
    split at observed <;> cases observed <;> rfl

theorem processBatch_reports (s : Session) (batch : Batch) :
    s.desk.Reports (s.processBatch batch).1.desk := by
  have collected : s.desk.Reports s.desk.collected :=
    ⟨.refl _, s.desk.channelRefusal?_mapChannel fun _ => rfl⟩
  rw [processBatch_eq]
  exact (collected.trans (Desk.enterAll_reports _ (.of_notices (s.pollNotices_silent _)))).trans
    (Desk.dispatchAll_reports _ _ _ _)

/-- A record that has to be rewritten at the start may fail to be, and that is told. -/
theorem start_reports (w : World) (scope : String) :
    w.Reports refusal? (start w scope).desk.world := by
  have opened : w.Reports refusal? (w.enterAll (openingEntries w)) := by
    refine reports_enterAll ?_ w
    unfold openingEntries World.loadEntries
    split <;> exact .plain rfl rfl (.plain rfl rfl (by first | exact .nil | exact .plain rfl rfl .nil))
  rw [start_eq, reconcile_eq]
  refine opened.trans ?_
  split
  · have dropped : Reported refusal? [.noted (.alertsTurnedOff w.offer.permission)] :=
      .plain rfl rfl .nil
    exact (reports_enterAll dropped _).trans (save_reports _ _)
  · exact .refl _

/-- Whatever fails in a step, the step tells of it. -/
theorem apply_reports (s : Session) (step : Step) :
    s.desk.world.Reports s.desk.channelRefusal? (step.apply s).desk.world := by
  cases step with
  | requestPermission => exact s.requestPermission_reports
  | setEnabled on => exact s.setEnabled_reports on
  | setSound on => exact s.persist_reports _
  | registerChannel => exact Desk.register_reports _ _ _
  | processBatch batch => exact (s.processBatch_reports batch).world
  | test => exact (Desk.test_reports _ _).world
  | workerBegins => exact (Desk.begin_reports _).world
  | workerTakes => exact (Desk.take_reports _).world
  | workerFinishes => exact (Desk.finish_reports _).world
  | workerGoes | queueEmptied => exact .refl _
  | toneOpens n => exact (Desk.openTone_reports _ n).world
  | overwritten slot => exact ⟨[], by simp [Step.apply, World.history], .nil⟩

/-! ## Runs -/

/-- What fails in the course of some steps, in the order in which it comes to light. -/
def failures (s : Session) : List Step → List Failure
  | [] => []
  | step :: rest => failuresIn s.desk.channelRefusal? (s.entries step) ++ failures (step.apply s) rest

theorem after_warns (steps : List Step) (s : Session) :
    ∃ es, (s.after steps).desk.world.history = s.desk.world.history ++ es ∧
      warningsIn es = s.failures steps ∧ (warningsIn es).length = es.countP Event.isFailure := by
  induction steps generalizing s with
  | nil => exact ⟨[], (List.append_nil _).symm, rfl, rfl⟩
  | cons step rest ih =>
    obtain ⟨grown, told⟩ := (s.apply_reports step).since
    obtain ⟨es, later, warned, counted⟩ := ih (step.apply s)
    refine ⟨s.entries step ++ es, ?_, ?_, ?_⟩
    · rw [← List.append_assoc, entries, ← grown]
      exact later
    · rw [warningsIn_append, warned, entries, told.warnings_eq_failures]
      rfl
    · rw [warningsIn_append, List.length_append, counted, entries, told.length_warnings,
        List.countP_append]

/-- What was begun is brought to its end, whatever fails on the way. -/
structure Completes (s : Session) : Prop where
  /-- Every alert that the engine fires in a poll is handled, with all that belongs to it. -/
  poll : ∀ batch, ∃ hs, s.HandedOver batch hs
  /-- Tone and vibration are tried in a test whatever became of its request. -/
  test : ∃ tone? still?, (s.entries .test).filter Event.isCall =
    (if s.capabilities.canNotify
      then (s.desk.handover .manualTest).calls s.desk.isRegistered .manualTest else []) ++
        [.toned alertTone .confirmed tone?, .vibrated vibrationPattern still?]
  /-- However a client ends, that is entered and the worker goes on with the queue. -/
  delivery : ∀ c r status, s.desk.channel? = some c → c.worker = .busy r status →
    s.entries .workerFinishes = exitEntries r status ∧
      (Step.workerFinishes.apply s).desk.channel? = some { c with worker := .running }
  /-- A worker that can run attempts everything queued, in order, and tells of what fails. -/
  queue : ∀ c, s.desk.channel? = some c → c.worker.isManned = true →
    attemptedIn (s.desk.world.since s.desk.settle.world) = c.queue ∧ s.desk.settle.queued = [] ∧
      Reported s.desk.channelRefusal? (s.desk.world.since s.desk.settle.world)
  /-- What becomes of a tone on its thread is entered when that comes to the device. -/
  device : ∀ n, s.desk.world.isUnopened n = true →
    s.entries (.toneOpens n) = deviceEntries n (s.desk.world.outside.platform.toneFault n)

theorem Permitted.completes {s : Session} (permitted : s.Permitted) : s.Completes where
  poll batch := permitted.handedOver batch
  test := by
    obtain ⟨tone?, still?, es, world, calls⟩ := s.desk.test_calls s.capabilities
    refine ⟨tone?, still?, ?_⟩
    have entered : s.entries .test = es := by
      rw [entries, show (Step.test.apply s).desk.world = s.desk.world.enterAll es from world,
        World.since_enterAll]
    rw [entered, calls]
  delivery c r status channel busy := by
    rcases s.desk.finish_cases with ⟨-, free⟩ | ⟨c', r', status', here, busy', finished⟩
    · exact absurd busy (free c r status channel)
    · cases channel.symm.trans here
      cases busy.symm.trans busy'
      rw [entries, Step.apply, finished]
      exact ⟨World.since_enterAll _ _, rfl⟩
  queue c channel manned := by
    obtain ⟨attempted, empty⟩ := Desk.settle_attempts channel manned
    exact ⟨attempted, empty, (Desk.settle_reports s.desk).world.since.2⟩
  device n unopened := by
    rw [entries, Step.apply, Desk.openTone_eq, if_pos unopened]
    exact World.since_enterAll _ _

/-- Alerts are on with permission, and what is called fails, but for the channel. -/
def failingWorld : World where
  outside := ⟨Scripted.platform ⟨⟨true, true, .granted⟩, none, true, true, true⟩,
    Scripted.host false, fun _ => some ⟨.permissionDenied, none⟩⟩
  disk := ⟨settingsFile, .file (Settings.record ⟨true, true⟩)⟩
  journal := []

def onePoll (key : String) : Step := .processBatch ((∅ : Batch).insert key (some 1))

/-- A desktop where no audio device opens and every client run ends with an exit status of one. -/
def brokenDesktop : World :=
  let client? : Option Desktop.Client := some ⟨"/usr/bin/notify-send", true, fun _ => .ok (.code 1)⟩
  { outside := ⟨Desktop.platform "http://localhost" client? fun _ => ⟨true, some "no device"⟩,
      Desktop.host client?, fun _ => none⟩
    disk := ⟨settingsFile, .file (Settings.record ⟨true, true⟩)⟩
    journal := [] }

end Session
end AlertRelay
