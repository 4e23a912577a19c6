import AlertRelay.Proofs.Session.Alike
import AlertRelay.Proofs.Session.Permission
import Mathlib.Data.List.Forall2

/-!
# Delivery never feeds back

What a session decides depends on its messages, on the answers to prompts and on the outcomes of
saves. Whether alerts get out, over which way and how fast, has no bearing on it, so two sessions
that agree on the former stay in agreement however the latter differ. Sound has no bearing even on
what is delivered.
-/
namespace AlertRelay

namespace World

/-- The next prompts and saves come to the same, and so does what is looked at of the file. -/
structure Agree {α : Type} (view : Slot → α) (w v : World) : Prop where
  prompts : w.laterPrompt = v.laterPrompt
  faults : w.laterFault = v.laterFault
  obstruction : w.disk.slot.obstruction? = v.disk.slot.obstruction?
  view : view w.disk.slot = view v.disk.slot

variable {α : Type} {view : Slot → α} {w v : World}

theorem Agree.aside (h : w.Agree view v) {w' v' : World} (left : w.Aside w') (right : v.Aside v') :
    w'.Agree view v' := by
  constructor
  · rw [left.laterPrompt, right.laterPrompt, h.prompts]
  · rw [left.laterFault, right.laterFault, h.faults]
  · rw [left.disk, right.disk, h.obstruction]
  · rw [left.disk, right.disk, h.view]

theorem laterPrompt_prompted (w : World) (answer : Except PlatformError Permission) :
    (w.enterAll (Session.promptEntries answer)).laterPrompt = fun n => w.laterPrompt (n + 1) := by
  funext n
  have one : (Session.promptEntries answer).countP Event.isPrompt = 1 := by cases answer <;> rfl
  rw [laterPrompt, laterPrompt, outside_enterAll, count_enterAll, one, Nat.add_assoc, Nat.add_comm 1]

theorem laterFault_prompted (w : World) (answer : Except PlatformError Permission) :
    (w.enterAll (Session.promptEntries answer)).laterFault = w.laterFault := by
  funext n
  have unsaved : (Session.promptEntries answer).countP Event.isSave = 0 := by cases answer <;> rfl
  rw [laterFault, laterFault, outside_enterAll, count_enterAll, unsaved, Nat.add_zero]

theorem Agree.prompted (h : w.Agree view v) :
    w.promptAnswer = v.promptAnswer ∧
      (w.enterAll (Session.promptEntries w.promptAnswer)).Agree view
        (v.enterAll (Session.promptEntries v.promptAnswer)) := by
  refine ⟨congrFun h.prompts 0, ?_, ?_, ?_, ?_⟩
  · rw [laterPrompt_prompted, laterPrompt_prompted, h.prompts]
  · rw [laterFault_prompted, laterFault_prompted, h.faults]
  · rw [disk_enterAll, disk_enterAll, h.obstruction]
  · rw [disk_enterAll, disk_enterAll, h.view]

end World

/-- What comes of a save depends on what obstructs it alone. -/
theorem Disk.save_agree {α : Type} {view : Slot → α} {d e : Disk}
    (obstruction : d.slot.obstruction? = e.slot.obstruction?) (same : view d.slot = view e.slot)
    (s : Settings) (fault? : Option SaveFault) :
    (d.save s fault?).2 = (e.save s fault?).2 ∧
      (d.save s fault?).1.slot.obstruction? = (e.save s fault?).1.slot.obstruction? ∧
      view (d.save s fault?).1.slot = view (e.save s fault?).1.slot := by
  unfold save
  rw [← obstruction]
  split <;> simp [obstruction, same]

theorem World.laterPrompt_save (w : World) (s : Settings) : (w.save s).1.laterPrompt = w.laterPrompt := by
  funext n
  rw [save_eq, laterPrompt, outside_enterAll, count_enterAll]
  rfl

theorem World.laterFault_save (w : World) (s : Settings) :
    (w.save s).1.laterFault = fun n => w.laterFault (n + 1) := by
  funext n
  rw [save_eq, laterFault, outside_enterAll, count_enterAll, laterFault, Nat.add_comm n, ← Nat.add_assoc]
  rfl

theorem World.Agree.saved {α : Type} {view : Slot → α} {w v : World} (h : w.Agree view v)
    (s : Settings) : (w.save s).2 = (v.save s).2 ∧ (w.save s).1.Agree view (v.save s).1 := by
  have met : w.outside.saveFault (w.count Event.isSave) =
      v.outside.saveFault (v.count Event.isSave) := congrFun h.faults 0
  obtain ⟨outcome, obstruction, same⟩ := Disk.save_agree h.obstruction h.view s
    (w.outside.saveFault (w.count Event.isSave))
  have disk (u : World) : (u.save s).1.disk = (u.saveOutcome s).1 := by
    rw [save_eq, disk_enterAll]
  refine ⟨?_, ?_, ?_, ?_, ?_⟩
  · rw [save_eq, save_eq, saveOutcome, saveOutcome, ← met, outcome]
  · rw [laterPrompt_save, laterPrompt_save, h.prompts]
  · rw [laterFault_save, laterFault_save, h.faults]
  · rw [disk, disk, saveOutcome, saveOutcome, ← met, obstruction]
  · rw [disk, disk, saveOutcome, saveOutcome, ← met, same]

namespace Session

/-- Agreement in all that decides. -/
structure Agree {α : Type} (view : Slot → α) (s t : Session) : Prop where
  world : s.desk.world.Agree view t.desk.world
  permission : s.permission = t.permission
  settings : s.settings = t.settings
  engine : s.engine = t.engine

variable {α : Type} {view : Slot → α} {s t : Session}

theorem Agree.unmoved (h : s.Agree view t) {s' t' : Session} (left : s.Unmoved s')
    (right : t.Unmoved t') (engine : s'.engine = t'.engine) : s'.Agree view t' := by
  refine ⟨h.world.aside left.world right.world, ?_, ?_, engine⟩
  · rw [left.permission, right.permission, h.permission]
  · rw [left.settings, right.settings, h.settings]

theorem noteAll_unmoved (s : Session) (ns : List Notice) : s.Unmoved (s.noteAll ns) := by
  refine unmoved_of_world ?_
  rw [Desk.noteAll_eq]
  exact ⟨_, rfl, notices_aside ns⟩

/-! ## What bears on decisions -/

theorem Agree.requestPermission (h : s.Agree view t) :
    s.requestPermission.2 = t.requestPermission.2 ∧
      s.requestPermission.1.Agree view t.requestPermission.1 := by
  obtain ⟨answer, prompted⟩ := h.world.prompted
  rw [requestPermission_eq, requestPermission_eq, h.permission]
  split
  · refine ⟨congrArg permissionOf answer, prompted, congrArg permissionOf answer, h.settings, h.engine⟩
  · exact ⟨rfl, h⟩

theorem Agree.persist (h : s.Agree view t) (a : Settings) :
    (s.persist a).1.Agree view (t.persist a).1 := by
  obtain ⟨fault, saved⟩ := h.world.saved a
  unfold Session.persist
  simp only [fault]
  cases (t.desk.world.save a).2 with
  | none => exact ⟨saved, h.permission, rfl, h.engine⟩
  | some fault =>
    exact ⟨saved.aside ⟨_, rfl, notices_aside [.settingsNotSaved fault]⟩
      ⟨_, rfl, notices_aside [.settingsNotSaved fault]⟩, h.permission, h.settings, h.engine⟩

theorem Agree.processBatch (h : s.Agree view t) (batch : Batch) :
    (s.processBatch batch).2.decisions = (t.processBatch batch).2.decisions ∧
      (s.processBatch batch).1.Agree view (t.processBatch batch).1 := by
  have evaluated : s.engine.evaluate batch s.settings = t.engine.evaluate batch t.settings := by
    rw [h.engine, h.settings]
  refine ⟨?_, h.unmoved (s.processBatch_unmoved batch) (t.processBatch_unmoved batch) ?_⟩
  · rw [processBatch_eq, processBatch_eq, evaluated]
  · rw [processBatch_eq, processBatch_eq, evaluated]

theorem Agree.setEnabled (h : s.Agree view t) (on : Bool) :
    (s.setEnabled on).1.Agree view (t.setEnabled on).1 := by
  cases on with
  | false =>
    rw [Session.setEnabled, Session.setEnabled, h.settings]
    exact h.persist _
  | true =>
    obtain ⟨answer, asked⟩ := h.requestPermission
    simp only [Session.setEnabled, if_true, answer, asked.settings]
    split
    · exact asked.persist _
    · exact asked.unmoved (note_unmoved _ _) (note_unmoved _ _) asked.engine

/-! ## Turns -/

/-- Steps that have no bearing on decisions. -/
def Step.isAside : Step → Bool
  | registerChannel | test | workerBegins | workerTakes | workerFinishes | workerGoes
  | queueEmptied | toneOpens _ => true
  | requestPermission | setEnabled _ | setSound _ | processBatch _ | overwritten _ => false

theorem apply_aside (s : Session) (step : Step) (aside : step.isAside = true) :
    s.Unmoved (step.apply s) ∧ (step.apply s).engine = s.engine := by
  cases step with
  | registerChannel => exact ⟨s.registerChannel_unmoved, rfl⟩
  | test => exact ⟨s.test_unmoved, rfl⟩
  | workerBegins | workerTakes | workerFinishes | workerGoes | queueEmptied | toneOpens _ =>
    exact ⟨s.behind_unmoved rfl, rfl⟩
  | requestPermission | setEnabled _ | setSound _ | processBatch _ | overwritten _ => cases aside

theorem Agree.apply (h : s.Agree view t) (step : Step) : (step.apply s).Agree view (step.apply t) := by
  by_cases aside : step.isAside = true
  · obtain ⟨left, engine⟩ := s.apply_aside step aside
    obtain ⟨right, engine'⟩ := t.apply_aside step aside
    exact h.unmoved left right (by rw [engine, engine', h.engine])
  · cases step with
    | requestPermission => exact h.requestPermission.2
    | setEnabled on => exact h.setEnabled on
    | setSound on =>
      rw [Step.apply, Step.apply, Session.setSound, Session.setSound, h.settings]
      exact h.persist _
    | processBatch batch => exact (h.processBatch batch).2
    | overwritten slot =>
      exact ⟨⟨h.world.prompts, h.world.faults, rfl, rfl⟩, h.permission, h.settings, h.engine⟩
    | registerChannel | test | workerBegins | workerTakes | workerFinishes | workerGoes
    | queueEmptied | toneOpens _ => exact absurd rfl aside

/-- A message, or a step of any kind. -/
inductive Turn where
  | message (m : Feed.Message)
  | step (step : Step)

namespace Turn

def apply (s : Session) : Turn → Session
  | message m => s.handle m
  | step st => st.apply s

/-- The operation that a turn comes to. -/
def operation? : Turn → Option Step
  | message m => Session.operation? m
  | step st => some st

/-- It has a bearing on decisions. -/
def matters (turn : Turn) : Bool := turn.operation?.any fun step => !step.isAside

/-- The alerts that a turn decides on. -/
def decisions (s : Session) (turn : Turn) : List Decision :=
  match turn.operation? with
  | some (.processBatch batch) => (s.processBatch batch).2.decisions
  | _ => []

end Turn

theorem turn_eq (s : Session) (turn : Turn) :
    ∃ ns, turn.apply s = (turn.operation?.elim s (Step.apply s)).noteAll ns := by
  cases turn with
  | message m => exact s.handle_eq m
  | step st => exact ⟨[], rfl⟩

/-- What is returned and held at a turn. -/
structure Stand (α : Type) where
  decisions : List Decision
  notified : Engine
  settings : Settings
  permission : Permission
  file : α

/-- How a session stands at each turn that matters. -/
def stands {α : Type} (view : Slot → α) (s : Session) : List Turn → List (Stand α)
  | [] => []
  | turn :: rest =>
      let after := turn.apply s
      if turn.matters then
        ⟨turn.decisions s, after.engine, after.settings, after.permission,
          view after.desk.world.disk.slot⟩ :: after.stands view rest
      else after.stands view rest

theorem Agree.aside (h : s.Agree view t) {turn : Turn} (aside : turn.matters = false) :
    (turn.apply s).Agree view t := by
  have unchanged : t.Unmoved t := unmoved_of_world (.refl t.desk.world)
  obtain ⟨ns, came⟩ := s.turn_eq turn
  have moved : (turn.operation?.elim s (Step.apply s)).Agree view t := by
    unfold Turn.matters at aside
    cases operation : turn.operation? with
    | none => exact h
    | some step =>
      obtain ⟨left, engine⟩ := s.apply_aside step (by simpa [operation] using aside)
      exact h.unmoved left unchanged (engine.trans h.engine)
  rw [came]
  exact moved.unmoved (noteAll_unmoved _ ns) unchanged moved.engine

theorem Agree.turn (h : s.Agree view t) (turn : Turn) :
    turn.decisions s = turn.decisions t ∧ (turn.apply s).Agree view (turn.apply t) := by
  obtain ⟨ns, came⟩ := s.turn_eq turn
  obtain ⟨ms, came'⟩ := t.turn_eq turn
  have moved : (turn.operation?.elim s (Step.apply s)).Agree view
      (turn.operation?.elim t (Step.apply t)) := by
    cases turn.operation? with
    | none => exact h
    | some step => exact h.apply step
  constructor
  · unfold Turn.decisions
    split
    · exact (h.processBatch _).1
    · rfl
  · rw [came, came']
    exact moved.unmoved (noteAll_unmoved _ ns) (noteAll_unmoved _ ms) moved.engine

/-- Only the turns that matter make a difference. -/
theorem Agree.stands_filter (h : s.Agree view t) (turns : List Turn) :
    s.stands view turns = t.stands view (turns.filter Turn.matters) := by
  induction turns generalizing s t with
  | nil => rfl
  | cons turn rest ih =>
    cases matters : turn.matters with
    | false =>
      rw [List.filter_cons_of_neg (by simp [matters]), stands, matters]
      exact ih (h.aside matters)
    | true =>
      obtain ⟨decisions, after⟩ := h.turn turn
      rw [List.filter_cons_of_pos matters, stands, stands, matters]
      simp only [if_true, ih after, decisions, after.engine, after.settings, after.permission,
        after.world.view]

/-! ## Starts -/

theorem openingEntries_aside (w : World) : ∀ e ∈ openingEntries w, e.isAside = true := by
  unfold openingEntries World.loadEntries
  split <;> simp [Event.isAside]

theorem reconcile_agree {w v : World} (h : w.Agree view v) (c : Capabilities) (a : Settings) :
    (reconcile w c a).1.Agree view (reconcile v c a).1 ∧
      (reconcile w c a).2 = (reconcile v c a).2 := by
  rw [reconcile_eq, reconcile_eq]
  split
  · have told := h.aside ⟨_, rfl, notices_aside [.alertsTurnedOff c.permission]⟩
      ⟨_, rfl, notices_aside [.alertsTurnedOff c.permission]⟩
    obtain ⟨fault, saved⟩ := told.saved { a with enabled := false }
    have quiet (fault? : Option IoFault) : ∀ e ∈ faultEntries fault?, e.isAside = true := by
      cases fault? <;> simp [faultEntries, Event.isAside]
    exact ⟨saved.aside ⟨_, rfl, quiet _⟩ ⟨_, rfl, quiet _⟩, rfl⟩
  · exact ⟨h, rfl⟩

theorem start_agree {w v : World} (h : w.Agree view v)
    (environment : w.outside.platform.environment = v.outside.platform.environment)
    (stored : w.stored = v.stored) (scope scope' : String) :
    (start w scope).Agree view (start v scope') := by
  have offer : w.offer = v.offer := congrArg Environment.capabilities environment
  have opened := h.aside ⟨_, rfl, openingEntries_aside w⟩ ⟨_, rfl, openingEntries_aside v⟩
  obtain ⟨world, settings⟩ := reconcile_agree opened v.offer v.stored
  rw [start_eq, start_eq, offer, stored]
  exact ⟨world, rfl, settings, rfl⟩

/-! ## Sound -/

/-- The same turn, but for what it says about sound. -/
inductive Turn.Alike : Turn → Turn → Prop
  | same (turn : Turn) : Alike turn turn
  | message (on on' : Bool) : Alike (.message (.sound on)) (.message (.sound on'))
  | step (on on' : Bool) : Alike (.step (.setSound on)) (.step (.setSound on'))

/-- What a turn comes to on the way out: for each notification whether it was delivered, and how many
are reported to be. -/
def Turn.dispatched (s : Session) (turn : Turn) : List Bool × Nat :=
  match turn.operation? with
  | some (.processBatch batch) => (s.results batch, (s.processBatch batch).2.delivered)
  | some .test => ([s.test.2.notificationShown], 0)
  | _ => ([], 0)

/-- The same of every turn of a run, each with its alerts. -/
def dispatches (s : Session) : List Turn → List (List Decision × List Bool × Nat)
  | [] => []
  | turn :: rest => (turn.decisions s, turn.dispatched s) :: (turn.apply s).dispatches rest

theorem Alike.turn {s t : Session} (h : s.Alike false t) {turn turn' : Turn} (same : turn.Alike turn') :
    turn.decisions s = turn'.decisions t ∧ turn.dispatched s = turn'.dispatched t ∧
      (turn.apply s).Alike false (turn'.apply t) := by
  cases same with
  | message on on' => exact ⟨rfl, rfl, h.handle_sound on on'⟩
  | step on on' => exact ⟨rfl, rfl, (h.setSound on on' rfl).1⟩
  | same =>
    refine ⟨?_, ?_, ?_⟩
    · unfold Turn.decisions
      split
      · exact (h.processBatch _).2.1
      · rfl
    · unfold Turn.dispatched
      split
      · rw [processBatch_delivered, processBatch_delivered, (h.processBatch _).2.2]
      · rw [h.test.2]
      · rfl
    · cases turn with
      | message m => exact h.handle m
      | step step => exact h.apply step

theorem Alike.dispatches {s t : Session} (h : s.Alike false t) {turns turns' : List Turn}
    (same : List.Forall₂ Turn.Alike turns turns') : s.dispatches turns = t.dispatches turns' := by
  induction same generalizing s t with
  | nil => rfl
  | cons first _ ih =>
    obtain ⟨decisions, dispatched, after⟩ := h.turn first
    rw [Session.dispatches, Session.dispatches, decisions, dispatched, ih after]

/-- The same as far as decisions go. -/
structure SameBasis (w v : World) : Prop where
  environment : w.outside.platform.environment = v.outside.platform.environment
  stored : w.stored = v.stored
  /-- Prompts are answered alike from here on. -/
  prompts : w.laterPrompt = v.laterPrompt
  /-- Saves come to the same from here on. -/
  faults : w.laterFault = v.laterFault
  obstruction : w.disk.slot.obstruction? = v.disk.slot.obstruction?

theorem SameBasis.stands {α : Type} {view : Slot → α} {w v : World} (same : SameBasis w v)
    (seen : view w.disk.slot = view v.disk.slot) (scope scope' : String) {turns turns' : List Turn}
    (matter : turns.filter Turn.matters = turns'.filter Turn.matters) :
    (start w scope).stands view turns = (start v scope').stands view turns' := by
  have agree : w.Agree view v := ⟨same.prompts, same.faults, same.obstruction, seen⟩
  have again : v.Agree view v := ⟨rfl, rfl, rfl, rfl⟩
  have left := (start_agree agree same.environment same.stored scope scope').stands_filter turns
  have right := (start_agree again rfl rfl scope' scope').stands_filter turns'
  rw [left, matter, right]

/-- However two runs differ in whether notifications, tones and vibrations fail, in what becomes of
the background channel and of its worker, and in the tests and reports asked for in between: on the
same basis, the same messages lead to the same alerts, and engine, settings, permission and what is
stored stay the same. Where only tones, vibrations and the sound setting differ, every delivery comes
to the same as well. -/
theorem delivery_never_feeds_back :
    (∀ (w v : World) (scope scope' : String) (turns turns' : List Turn), SameBasis w v →
      turns.filter Turn.matters = turns'.filter Turn.matters →
        (start w scope).stands (fun slot => slot.load.settings) turns =
          (start v scope').stands (fun slot => slot.load.settings) turns' ∧
        (w.disk.slot = v.disk.slot →
          (start w scope).stands id turns = (start v scope').stands id turns')) ∧
    (∀ (w v : World) (scope : String) (turns turns' : List Turn), w.Alike false v →
      w.stored.enabled = v.stored.enabled → List.Forall₂ Turn.Alike turns turns' →
        (start w scope).dispatches turns = (start v scope).dispatches turns') := by
  constructor
  · intro w v scope scope' turns turns' same matter
    exact ⟨same.stands same.stored scope scope' matter,
      fun file => same.stands file scope scope' matter⟩
  · intro w v scope turns turns' alike enabled same
    have stored : w.stored.compared false = v.stored.compared false :=
      congrArg (Settings.mk · false) enabled
    exact (start_alike alike stored scope).dispatches same

/-- The same basis as `undecidedWorld`, with everything else failing. -/
def hostileWorld : World :=
  { undecidedWorld with
    outside.platform := Scripted.platform ⟨⟨true, true, .undecided⟩, some .granted, true, true, true⟩
    outside.host := Scripted.host true }

/-- As `undecidedWorld`, with sound off and failing. -/
def mutedWorld : World :=
  { undecidedWorld with
    outside.platform := Scripted.platform ⟨⟨true, true, .undecided⟩, some .granted, false, true, true⟩
    disk := ⟨settingsFile, .file (Settings.record ⟨true, false⟩)⟩ }

def rise : Turn := .message (.entries ((∅ : Batch).insert "a" (some 1)))

/-- With a channel and a test here and neither there, and with sound turned off here and on there. -/
theorem runs_on_undecided_basis :
    (start undecidedWorld "").stands id
        [.step .registerChannel, .message .enable, .message .test, rise, .message .disable] =
      (start hostileWorld "").stands id [.message .enable, rise, .message .disable] ∧
    (start undecidedWorld "").dispatches [.message .enable, .message (.sound false), rise] =
      (start mutedWorld "").dispatches [.message .enable, .message (.sound true), rise] := by
  obtain ⟨decided, delivered⟩ := delivery_never_feeds_back
  have same : SameBasis undecidedWorld hostileWorld := ⟨rfl, rfl, rfl, rfl, rfl⟩
  have stored : undecidedWorld.stored.enabled = mutedWorld.stored.enabled := by decide +kernel
  have alike : undecidedWorld.Alike false mutedWorld := by
    have disk : undecidedWorld.disk.compared false = mutedWorld.disk.compared false := by
      simp [undecidedWorld, mutedWorld, Disk.compared]
    rw [World.Alike, World.compared, World.compared, disk]
    rfl
  have matter : [.step .registerChannel, .message .enable, .message .test, rise,
      .message .disable].filter Turn.matters =
        [.message .enable, rise, .message .disable].filter Turn.matters := rfl
  have file : undecidedWorld.disk.slot = hostileWorld.disk.slot := rfl
  obtain ⟨-, held⟩ := decided _ _ "" "" _ _ same matter
  exact ⟨held file, delivered _ _ "" _ _ alike stored
    (.cons (.same _) (.cons (.message false true) (.cons (.same _) .nil)))⟩

end Session
end AlertRelay
