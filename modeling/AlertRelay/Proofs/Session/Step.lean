import AlertRelay.Feed.Drive
import AlertRelay.Proofs.Desk.Footprint

/-!
# Steps of a session

Besides the operations of the foreground a session is moved by the worker, by whoever holds the
receiving end of the channel, by tones on their threads, and by others who write to the place of the
settings file. The client that the worker starts for a request ends in a step of its own, so the
foreground may act in between. A message of the feed is one operation, or none, and something told
about it.
-/
namespace AlertRelay

namespace Session

inductive Step where
  | requestPermission
  | setEnabled (on : Bool)
  | setSound (on : Bool)
  | registerChannel
  | processBatch (batch : Batch)
  | test
  | workerBegins
  /-- A request is taken and the client for it started. -/
  | workerTakes
  /-- The client that the worker waits for ends. -/
  | workerFinishes
  /-- The receiving end goes away with whatever is queued. -/
  | workerGoes
  /-- Everything queued is taken out at the receiving end. -/
  | queueEmptied
  /-- The thread of a detached tone comes to open the device. -/
  | toneOpens (n : Nat)
  /-- Someone else writes to the place of the settings file. -/
  | overwritten (slot : Slot)

def Step.apply (s : Session) : Step → Session
  | requestPermission => s.requestPermission.1
  | setEnabled on => (s.setEnabled on).1
  | setSound on => (s.setSound on).1
  | registerChannel => s.registerChannel.1
  | processBatch batch => (s.processBatch batch).1
  | test => s.test.1
  | workerBegins => { s with desk := s.desk.begin }
  | workerTakes => { s with desk := s.desk.take }
  | workerFinishes => { s with desk := s.desk.finish }
  | workerGoes => { s with desk := s.desk.mapChannel Channel.abandon }
  | queueEmptied => { s with desk := s.desk.mapChannel fun c => c.empty.1 }
  | toneOpens n => { s with desk := s.desk.openTone n }
  | overwritten slot =>
      { s with desk.world.disk.slot := slot }

/-- Somebody else's doing. -/
def Step.isForeign : Step → Bool
  | overwritten _ => true
  | _ => false

/-- It goes on behind the foreground: the worker's doing, the receiving end's, or a tone's. -/
def Step.isBehind : Step → Bool
  | workerBegins | workerTakes | workerFinishes | workerGoes | queueEmptied | toneOpens _ => true
  | _ => false

/-- A session after steps in any order. -/
def after (s : Session) (steps : List Step) : Session := steps.foldl Step.apply s

theorem after_append (s : Session) (steps : List Step) (step : Step) :
    s.after (steps ++ [step]) = step.apply (s.after steps) := by
  simp [after]

/-! ## What the operations leave alone -/

/-- Nothing but the desk and the engine differs, and the desk neither asked nor saved. -/
structure Unmoved (s t : Session) : Prop where
  scope : t.scope = s.scope
  initial : t.initial = s.initial
  permission : t.permission = s.permission
  settings : t.settings = s.settings
  world : s.desk.world.Aside t.desk.world

theorem unmoved_of_world {s : Session} {desk : Desk} (h : s.desk.world.Aside desk.world) :
    s.Unmoved { s with desk := desk } := ⟨rfl, rfl, rfl, rfl, h⟩

/-- Behind the foreground the desk alone is moved. -/
theorem behind_eq (s : Session) {step : Step} (behind : step.isBehind = true) :
    ∃ desk, step.apply s = { s with desk := desk } ∧ s.desk.Backstage desk := by
  have receiving (f : Channel → Channel) : s.desk.Backstage (s.desk.mapChannel f) :=
    ⟨⟨[], rfl, by simp⟩, rfl⟩
  cases step with
  | workerBegins => exact ⟨_, rfl, s.desk.begin_backstage⟩
  | workerTakes => exact ⟨_, rfl, s.desk.take_backstage⟩
  | workerFinishes => exact ⟨_, rfl, s.desk.finish_backstage⟩
  | workerGoes | queueEmptied => exact ⟨_, rfl, receiving _⟩
  | toneOpens n => exact ⟨_, rfl, s.desk.openTone_backstage n⟩
  | _ => cases behind

theorem behind_unmoved (s : Session) {step : Step} (behind : step.isBehind = true) :
    s.Unmoved (step.apply s) := by
  obtain ⟨desk, moved, backstage⟩ := s.behind_eq behind
  rw [moved]
  exact unmoved_of_world backstage.aside

theorem registerChannel_unmoved (s : Session) : s.Unmoved s.registerChannel.1 :=
  unmoved_of_world (Desk.register_aside _ _ _)

/-- What is told between the start of a poll and its first alert. -/
def pollNotices (s : Session) (os : List Observation) : List Notice :=
  s.desk.reportNotices ++ os.filterMap Notice.ofObservation?

/-- A poll collects the worker's reports, tells what was observed and dispatches what fired. -/
theorem processBatch_eq (s : Session) (batch : Batch) :
    s.processBatch batch =
      let os := (s.engine.evaluate batch s.settings).2
      let desk := s.desk.collected.enterAll ((s.pollNotices os).map .noted)
      let sent := desk.dispatchAll s.capabilities s.settings (decisionsOf os)
      ({ s with desk := sent.1, engine := (s.engine.evaluate batch s.settings).1 },
        ⟨decisionsOf os, sent.2⟩) := by
  have polled (os : List Observation) :
      s.desk.poll.1.noteAll (os.filterMap Notice.ofObservation?) =
        s.desk.collected.enterAll ((s.pollNotices os).map .noted) := by
    rw [Desk.poll_eq, Desk.noteAll_eq, Desk.noteAll_eq, Desk.enterAll_enterAll, ← List.map_append]
    rfl
  simp only [← polled]
  rfl

theorem processBatch_unmoved (s : Session) (batch : Batch) : s.Unmoved (s.processBatch batch).1 := by
  rw [processBatch_eq]
  refine ⟨rfl, rfl, rfl, rfl, ?_⟩
  have told : s.desk.world.Aside (s.desk.collected.enterAll
      ((s.pollNotices (s.engine.evaluate batch s.settings).2).map .noted)).world :=
    ⟨_, rfl, notices_aside _⟩
  exact told.trans (Desk.dispatchAll_aside _ _ _ _)

theorem test_unmoved (s : Session) : s.Unmoved s.test.1 :=
  unmoved_of_world (Desk.test_aside _ _)

/-- What the answer to a prompt counts as. -/
def permissionOf : Except PlatformError Permission → Permission
  | .ok p => p
  | .error _ => .denied

def promptEntries (answer : Except PlatformError Permission) : List Event :=
  .prompted answer :: match answer with
    | .ok p => [.noted (.permissionNow p)]
    | .error e => [.noted (.promptFailed e), .noted (.permissionNow .denied)]

theorem requestPermission_eq (s : Session) :
    s.requestPermission =
      if s.permission.canPrompt then
        ({ s with
            desk := s.desk.enterAll (promptEntries s.desk.world.promptAnswer)
            permission := permissionOf s.desk.world.promptAnswer },
          permissionOf s.desk.world.promptAnswer)
      else (s, s.permission) := by
  unfold requestPermission
  cases s.permission.canPrompt with
  | false => rfl
  | true =>
    simp only [World.prompt_eq]
    cases s.desk.world.promptAnswer <;> rfl

/-- Asking for permission leaves settings and disk alone. A permission that it changes was
undecided. -/
theorem requestPermission_spec (s : Session) :
    s.requestPermission.1.initial = s.initial ∧ s.requestPermission.1.settings = s.settings ∧
      s.desk.world.Extends s.requestPermission.1.desk.world ∧
      s.requestPermission.2 = s.requestPermission.1.permission ∧
      (s.permission = .undecided ∨ s.requestPermission.1.permission = s.permission) := by
  rw [requestPermission_eq]
  cases undecided : s.permission.canPrompt with
  | false => exact ⟨rfl, rfl, World.extends_refl _, rfl, Or.inr rfl⟩
  | true =>
    refine ⟨rfl, rfl, ⟨_, rfl⟩, rfl, Or.inl ?_⟩
    simpa [Permission.canPrompt] using undecided

/-- New settings become current exactly when the save met no fault. -/
theorem persist_spec (s : Session) (t : Settings) :
    (s.persist t).1.initial = s.initial ∧ (s.persist t).1.permission = s.permission ∧
      (s.persist t).1.desk.world.disk = (s.desk.world.saveOutcome t).1 ∧
      (s.persist t).2 = (s.desk.world.saveOutcome t).2.isNone ∧
      (s.persist t).1.settings = if (s.persist t).2 then t else s.settings := by
  unfold persist
  rw [World.save_eq]
  cases (s.desk.world.saveOutcome t).2 with
  | none => exact ⟨rfl, rfl, rfl, rfl, rfl⟩
  | some fault => exact ⟨rfl, rfl, rfl, rfl, rfl⟩

/-! ## Messages -/

/-- The operation that a message asks for. -/
def operation? : Feed.Message → Option Step
  | .entries batch => some (.processBatch batch)
  | .enable => some (.setEnabled true)
  | .disable => some (.setEnabled false)
  | .sound on => some (.setSound on)
  | .test => some .test
  | .status => none

def operated (s : Session) (m : Feed.Message) : Session := (operation? m).elim s (Step.apply s)

def noteAll (s : Session) (ns : List Notice) : Session := { s with desk := s.desk.noteAll ns }

/-- Beyond its operation a message is only told about. -/
theorem handle_eq (s : Session) (m : Feed.Message) : ∃ ns, s.handle m = (s.operated m).noteAll ns := by
  cases m with
  | entries batch =>
    let tick := (s.processBatch batch).2
    cases fired : tick.decisions.isEmpty with
    | true => exact ⟨[], by simp only [handle, fired, tick, if_true]; rfl⟩
    | false =>
      exact ⟨[.ticked batch.size tick.decisions.length tick.delivered],
        by simp only [handle, fired, tick]; rfl⟩
  | enable =>
    have after : s.operated .enable = (s.setEnabled true).1 := rfl
    rw [handle, after]
    rcases s.setEnabled true with ⟨after, _ | _⟩
    · exact ⟨[.alertsNotEnabled after.obstacle?], rfl⟩
    · exact ⟨[.alertsEnabled], rfl⟩
  | disable =>
    have after : s.operated .disable = (s.setEnabled false).1 := rfl
    rw [handle, after]
    rcases s.setEnabled false with ⟨after, _ | _⟩
    · exact ⟨[], rfl⟩
    · exact ⟨[.alertsDisabled], rfl⟩
  | sound on =>
    have after : s.operated (.sound on) = (s.setSound on).1 := rfl
    rw [handle, after]
    rcases s.setSound on with ⟨after, _ | _⟩
    · exact ⟨[], rfl⟩
    · exact ⟨[.soundSet on], rfl⟩
  | test => exact ⟨[.tested s.test.2], rfl⟩
  | status =>
    let report := Notice.status s.capabilities s.desk.isRegistered s.settings
    rw [handle]
    cases (s.note report).obstacle? with
    | none => exact ⟨[report], rfl⟩
    | some o => exact ⟨[report, .obstacle o], rfl⟩

end Session
end AlertRelay
