import AlertRelay.Desktop
import AlertRelay.Proofs.Desk.Calls
import AlertRelay.Proofs.Engine.Observation
import AlertRelay.Proofs.Session.Permission

/-!
# When a session calls its surroundings

The surroundings are asked for their account of themselves once, at the start. The prompt is called
by two operations alone, and only while permission is undecided, so the permissions of a session are
some undecided ones and then one that stays. Whatever is offered or shown is so with a granted
permission, and what a poll does besides also with alerts enabled.
-/
namespace AlertRelay

namespace Event

/-- The answer of a prompt. -/
def answer? : Event → Option (Except PlatformError Permission)
  | prompted answer => some answer
  | _ => none

/-- A prompt, an installation, or something told or saved. -/
def isApart : Event → Bool
  | noted _ | prompted _ | installed .. | saved .. => true
  | _ => false

theorem of_isApart {e : Event} (h : e.isApart = true) :
    e.isHandover = false ∧ e.isFeedback = false ∧ e.isSurvey = false := by
  cases e <;> simp_all [isApart, isHandover, isFeedback, isSurvey]

theorem of_isBackground {e : Event} (h : e.isBackground = true) :
    e.isHandover = false ∧ e.isFeedback = false ∧ e.isSurvey = false := by
  cases e <;> simp_all [isBackground, isHandover, isFeedback, isSurvey]

/-- Something told or saved. -/
def isRecord : Event → Bool
  | noted _ | saved .. => true
  | _ => false

theorem isApart_of_isRecord {e : Event} (h : e.isRecord = true) : e.isApart = true := by
  cases e <;> first | rfl | cases h

theorem answer?_of_isRecord {e : Event} (h : e.isRecord = true) : e.answer? = none := by
  cases e <;> first | rfl | cases h

end Event

def answersIn (es : List Event) : List (Except PlatformError Permission) :=
  es.filterMap Event.answer?

theorem answersIn_append (es fs : List Event) :
    answersIn (es ++ fs) = answersIn es ++ answersIn fs := List.filterMap_append

theorem answersIn_promptEntries (answer : Except PlatformError Permission) :
    answersIn (Session.promptEntries answer) = [answer] := by cases answer <;> rfl

namespace World

open Session (promptEntries)

variable {w v : World}

variable {allowed : Event → Bool}

theorem Enters.unanswered (h : w.Enters allowed v)
    (silent : ∀ {e}, allowed e = true → e.answer? = none) : answersIn (w.since v) = [] := by
  obtain ⟨-, fine⟩ := h.since
  rw [answersIn, List.filterMap_eq_nil_iff]
  exact fun e member => silent (fine e member)

theorem Enters.countP_eq_zero (h : w.Enters allowed v) (kind : Event → Bool)
    (others : ∀ {e}, allowed e = true → kind e = false) : (w.since v).countP kind = 0 := by
  obtain ⟨-, fine⟩ := h.since
  rw [List.countP_eq_zero]
  intro e member
  simp [others (fine e member)]

theorem Aside.unanswered (h : w.Aside v) : answersIn (w.since v) = [] := by
  obtain ⟨es, rfl, quiet⟩ := h
  rw [since_enterAll, answersIn, List.filterMap_eq_nil_iff]
  intro e member
  have aside := quiet e member
  cases e <;> simp_all [Event.isAside, Event.answer?]

theorem enters_withDisk (w : World) (disk : Disk) : w.Enters allowed { w with disk := disk } :=
  ⟨[], (List.append_nil _).symm, by simp⟩

theorem promptEntries_apart (answer : Except PlatformError Permission) :
    ∀ e ∈ promptEntries answer, e.isApart = true := by
  cases answer <;> simp [promptEntries, Event.isApart]

end World

theorem Desk.Backstage.enters {d after : Desk} (h : d.Backstage after) :
    d.world.Enters Event.isBackground after.world := by
  obtain ⟨es, grown, fine⟩ := h.world
  rw [grown]
  exact World.enters_enterAll _ es fine

namespace Session

open World (Enters enters_enterAll enters_withDisk)

/-- What a step enters in the journal. -/
def entries (s : Session) (step : Step) : List Event :=
  s.desk.world.since (step.apply s).desk.world

namespace Step

/-- It may ask for permission. -/
def asks : Step → Bool
  | requestPermission | setEnabled true => true
  | _ => false

/-- It may notify the user. -/
def notifies : Step → Bool
  | processBatch _ | test => true
  | _ => false

/-- What a step may enter, judged by how things stand before it. -/
def mayEnter (s : Session) : Step → Event → Bool
  | processBatch _ =>
      Event.isUnder (s.settings.enabled && s.capabilities.canNotify)
        (s.settings.enabled && (s.capabilities.canNotify && s.settings.soundEnabled))
  | test => Event.isUnder s.capabilities.canNotify true
  | workerBegins | workerTakes | workerFinishes | workerGoes | queueEmptied | toneOpens _ =>
      Event.isBackground
  | _ => Event.isApart

theorem mayEnter_unsurveyed {s : Session} {step : Step} {e : Event} (may : step.mayEnter s e = true) :
    e.isSurvey = false := by
  cases step with
  | processBatch _ | test => exact (Event.of_isUnder may).2.2
  | requestPermission | setEnabled _ | setSound _ | registerChannel | overwritten _ =>
    exact (Event.of_isApart may).2.2
  | _ => exact (Event.of_isBackground may).2.2

theorem mayEnter_handover {s : Session} {step : Step} {e : Event} (may : step.mayEnter s e = true)
    (handed : e.isHandover = true) : step.notifies = true ∧ s.capabilities.canNotify = true := by
  cases step with
  | processBatch _ =>
    obtain ⟨-, allowed⟩ := Bool.and_eq_true_iff.mp ((Event.of_isUnder may).1 handed)
    exact ⟨rfl, allowed⟩
  | test => exact ⟨rfl, (Event.of_isUnder may).1 handed⟩
  | requestPermission | setEnabled _ | setSound _ | registerChannel | overwritten _ =>
    rw [(Event.of_isApart may).1] at handed
    cases handed
  | _ =>
    rw [(Event.of_isBackground may).1] at handed
    cases handed

theorem mayEnter_feedback {s : Session} {step : Step} {e : Event} (may : step.mayEnter s e = true)
    (heard : e.isFeedback = true) : step.notifies = true := by
  cases step with
  | processBatch _ | test => rfl
  | requestPermission | setEnabled _ | setSound _ | registerChannel | overwritten _ =>
    rw [(Event.of_isApart may).2.1] at heard
    cases heard
  | _ =>
    rw [(Event.of_isBackground may).2.1] at heard
    cases heard

end Step

/-! ## What the operations enter -/

theorem requestPermission_enters (s : Session) :
    s.desk.world.Enters Event.isApart s.requestPermission.1.desk.world := by
  rw [requestPermission_eq]
  split
  · exact enters_enterAll _ _ (World.promptEntries_apart _)
  · exact .refl _

theorem requestPermission_answers (s : Session) :
    answersIn (s.desk.world.since s.requestPermission.1.desk.world) =
      if s.permission.canPrompt then [s.desk.world.promptAnswer] else [] := by
  rw [requestPermission_eq]
  split
  · rw [Desk.enterAll_world, World.since_enterAll, answersIn_promptEntries]
  · exact (World.Aside.refl _).unanswered

theorem note_enters (s : Session) (n : Notice) :
    s.desk.world.Enters Event.isApart (s.note n).desk.world :=
  enters_enterAll _ [.noted n] (by simp [Event.isApart])

theorem save_enters (w : World) (t : Settings) :
    w.Enters Event.isRecord ((w.save t).1.enterAll (faultEntries (w.save t).2)) := by
  rw [World.save_eq, World.enterAll_enterAll]
  refine (enters_withDisk _ _).trans (enters_enterAll _ _ ?_)
  simp [faultEntries, Event.isRecord]

theorem persist_enters (s : Session) (t : Settings) :
    s.desk.world.Enters Event.isRecord (s.persist t).1.desk.world := by
  rw [persist_world]
  exact save_enters _ t

theorem persist_apart (s : Session) (t : Settings) :
    s.desk.world.Enters Event.isApart (s.persist t).1.desk.world :=
  (persist_enters s t).mono fun _ => Event.isApart_of_isRecord

theorem persist_answers (s : Session) (t : Settings) :
    answersIn (s.desk.world.since (s.persist t).1.desk.world) = [] :=
  (persist_enters s t).unanswered Event.answer?_of_isRecord

theorem setEnabled_enters (s : Session) (on : Bool) :
    s.desk.world.Enters Event.isApart (s.setEnabled on).1.desk.world := by
  have asked := s.requestPermission_enters
  rcases s.setEnabled_cases on with ⟨-, refused⟩ | ⟨-, -, saved⟩ | ⟨-, saved⟩
  · rw [refused]
    exact asked.trans (note_enters _ _)
  · rw [saved]
    exact asked.trans (persist_apart _ _)
  · rw [saved]
    exact persist_apart _ _

theorem setEnabled_answers (s : Session) (on : Bool) :
    answersIn (s.desk.world.since (s.setEnabled on).1.desk.world) =
      if on && s.permission.canPrompt then [s.desk.world.promptAnswer] else [] := by
  have asked := s.requestPermission_enters
  rcases s.setEnabled_cases on with ⟨rfl, refused⟩ | ⟨rfl, -, saved⟩ | ⟨rfl, saved⟩
  · have noted := (note_unmoved s.requestPermission.1
      (.cannotEnable s.requestPermission.2)).world.unanswered
    rw [refused, asked.since_trans (note_enters _ _), answersIn_append, requestPermission_answers]
    rw [noted, List.append_nil, Bool.true_and]
  · rw [saved, asked.since_trans (persist_enters _ _), answersIn_append, requestPermission_answers,
      persist_answers, List.append_nil, Bool.true_and]
  · rw [saved, persist_answers]
    rfl

theorem registerChannel_enters (s : Session) :
    s.desk.world.Enters Event.isApart s.registerChannel.1.desk.world := by
  unfold registerChannel
  simp only
  cases tried : s.desk.attempted with
  | true =>
    rw [Desk.register_again _ _ tried]
    exact .refl _
  | false =>
    rw [Desk.register_eq _ _ tried]
    refine enters_enterAll _ _ ?_
    unfold Desk.registrationEntries
    cases s.desk.world.installation s.scope <;> cases s.capabilities.apiAvailable <;>
      cases s.capabilities.secureContext <;> simp [Event.isApart]

theorem processBatch_enters (s : Session) (batch : Batch) :
    s.desk.world.Enters ((Step.processBatch batch).mayEnter s) (s.processBatch batch).1.desk.world := by
  have noticed (os : List Observation) (allowed sound : Bool) :
      s.desk.world.Enters (Event.isUnder allowed sound)
        (s.desk.collected.enterAll ((s.pollNotices os).map .noted)).world :=
    enters_enterAll _ _ (Desk.notices_under _ _ _)
  cases enabled : s.settings.enabled with
  | false =>
    rw [processBatch_eq, Engine.evaluate_of_disabled _ _ _ enabled]
    exact noticed [] _ _
  | true =>
    rw [processBatch_eq, Step.mayEnter, enabled, Bool.true_and, Bool.true_and]
    exact (noticed _ _ _).trans (Desk.dispatchAll_under _ _ _ _)

/-! ## One step -/

theorem apply_enters (s : Session) (step : Step) :
    s.desk.world.Enters (step.mayEnter s) (step.apply s).desk.world := by
  cases step with
  | requestPermission => exact s.requestPermission_enters
  | setEnabled on => exact s.setEnabled_enters on
  | setSound on => exact s.persist_apart _
  | registerChannel => exact s.registerChannel_enters
  | processBatch batch => exact s.processBatch_enters batch
  | test => exact Desk.test_under _ _
  | overwritten slot => exact enters_withDisk _ _
  | workerBegins => exact s.desk.begin_backstage.enters
  | workerTakes => exact s.desk.take_backstage.enters
  | workerFinishes => exact s.desk.finish_backstage.enters
  | workerGoes | queueEmptied => exact .refl _
  | toneOpens n => exact (s.desk.openTone_backstage n).enters

theorem apply_answers (s : Session) (step : Step) :
    answersIn (s.entries step) =
      if step.asks && s.permission.canPrompt then [s.desk.world.promptAnswer] else [] := by
  cases step with
  | requestPermission => exact s.requestPermission_answers
  | setEnabled on =>
    refine (s.setEnabled_answers on).trans ?_
    cases on <;> rfl
  | setSound on => exact s.persist_answers _
  | registerChannel => exact s.registerChannel_unmoved.world.unanswered
  | processBatch batch => exact (s.processBatch_unmoved batch).world.unanswered
  | test => exact s.test_unmoved.world.unanswered
  | overwritten slot =>
    have nothing := World.since_withDisk s.desk.world { s.desk.world.disk with slot := slot } []
    exact congrArg answersIn nothing
  | _ => exact (s.behind_unmoved rfl).world.unanswered

theorem apply_permission (s : Session) (step : Step) :
    (step.apply s).permission =
      if step.asks && s.permission.canPrompt then permissionOf s.desk.world.promptAnswer
      else s.permission := by
  have asked : s.requestPermission.1.permission =
      if s.permission.canPrompt then permissionOf s.desk.world.promptAnswer else s.permission := by
    rw [requestPermission_eq]
    split <;> rfl
  have saved (s : Session) (t : Settings) : (s.persist t).1.permission = s.permission := by
    obtain ⟨-, permission, -, -, -⟩ := s.persist_spec t
    exact permission
  cases step with
  | requestPermission => exact asked
  | setEnabled on =>
    change (s.setEnabled on).1.permission = _
    rcases s.setEnabled_cases on with ⟨rfl, refused⟩ | ⟨rfl, -, granted⟩ | ⟨rfl, off⟩
    · rw [refused]
      exact asked
    · rw [granted, saved]
      exact asked
    · rw [off, saved]
      rfl
  | setSound on => exact saved s _
  | registerChannel => exact s.registerChannel_unmoved.permission
  | processBatch batch => exact (s.processBatch_unmoved batch).permission
  | test => exact s.test_unmoved.permission
  | _ => rfl

/-- What one step calls, judged by how things stand before it. -/
structure Licensed (s : Session) (step : Step) : Prop where
  /-- The journal grows by what the step enters. -/
  grown : (step.apply s).desk.world.history = s.desk.world.history ++ s.entries step
  unsurveyed : (s.entries step).countP Event.isSurvey = 0
  /-- The user is prompted once if the step asks and permission is undecided, else not at all. -/
  prompts : answersIn (s.entries step) =
    if step.asks = true ∧ s.permission = .undecided then [s.desk.world.promptAnswer] else []
  /-- Permission changes by an answer alone, a failing prompt counting as a refusal. -/
  permission : (step.apply s).permission =
    ((answersIn (s.entries step)).head?.map permissionOf).getD s.permission
  /-- Requests are offered and shown by polls and tests, with permission. -/
  handovers : ∀ e ∈ s.entries step, e.isHandover = true →
    step.notifies = true ∧ s.capabilities.apiAvailable = true ∧ s.permission = .granted
  feedback : ∀ e ∈ s.entries step, e.isFeedback = true → step.notifies = true
  /-- Alerts are enabled for whatever a poll does, and sound is on for what is heard of it. -/
  polled : ∀ batch, step = .processBatch batch → ∀ e ∈ s.entries step,
    (e.isHandover = true → s.settings.enabled = true) ∧
      (e.isFeedback = true → s.settings.enabled = true ∧ s.settings.soundEnabled = true)
  /-- How things stand is the same after a poll or a test. -/
  unmoved : step.notifies = true → s.Unmoved (step.apply s)

theorem licensed (s : Session) (step : Step) : s.Licensed step := by
  obtain ⟨grown, fine⟩ := (s.apply_enters step).since
  have answers := s.apply_answers step
  have undecided : s.permission.canPrompt = decide (s.permission = .undecided) := by
    cases s.permission <;> rfl
  have able : s.capabilities.canNotify = true →
      s.capabilities.apiAvailable = true ∧ s.permission = .granted := by
    simp [Capabilities.canNotify, capabilities, Permission.isGranted]
  refine ⟨grown, ?_, ?_, ?_, ?_, ?_, ?_, ?_⟩
  · exact (s.apply_enters step).countP_eq_zero Event.isSurvey Step.mayEnter_unsurveyed
  · rw [answers, undecided]
    simp
  · rw [answers, apply_permission]
    split <;> rfl
  · intro e member handed
    obtain ⟨notifies, allowed⟩ := Step.mayEnter_handover (fine e member) handed
    exact ⟨notifies, able allowed⟩
  · intro e member heard
    exact Step.mayEnter_feedback (fine e member) heard
  · rintro batch rfl e member
    obtain ⟨handed, heard, -⟩ := Event.of_isUnder (fine e member)
    simp only [Bool.and_eq_true] at handed heard
    exact ⟨fun h => (handed h).1, fun h => ⟨(heard h).1, (heard h).2.2⟩⟩
  · intro notifies
    cases step with
    | processBatch batch => exact s.processBatch_unmoved batch
    | test => exact s.test_unmoved
    | _ => cases notifies

/-! ## Runs -/

/-- The permission at the start of some steps and after each of them. -/
def permissions (s : Session) : List Step → List Permission
  | [] => [s.permission]
  | step :: rest => s.permission :: permissions (step.apply s) rest

theorem permissions_of_decided (steps : List Step) (s : Session) (decided : s.permission ≠ .undecided) :
    permissions s steps = List.replicate (steps.length + 1) s.permission := by
  induction steps generalizing s with
  | nil => rfl
  | cons step rest ih =>
    have kept : (step.apply s).permission = s.permission := by
      rw [apply_permission]
      simp [Permission.canPrompt, decided]
    rw [permissions, ih _ (kept ▸ decided), kept]
    rfl

/-- Some undecided permissions, and then one that stays. -/
theorem permissions_settle (steps : List Step) (s : Session) :
    ∃ n last, permissions s steps =
      List.replicate n .undecided ++ List.replicate (steps.length + 1 - n) last := by
  induction steps generalizing s with
  | nil => exact ⟨0, s.permission, rfl⟩
  | cons step rest ih =>
    by_cases decided : s.permission = .undecided
    · obtain ⟨n, last, tail⟩ := ih (step.apply s)
      refine ⟨n + 1, last, ?_⟩
      rw [permissions, decided, tail, List.length_cons, Nat.add_sub_add_right]
      rfl
    · exact ⟨0, s.permission, permissions_of_decided (step :: rest) s decided⟩

theorem after_enters (s : Session) (steps : List Step) :
    s.desk.world.Enters (fun e => !e.isSurvey) (s.after steps).desk.world := by
  induction steps using List.reverseRecOn with
  | nil => exact .refl _
  | append_singleton steps step ih =>
    rw [after_append]
    refine ih.trans ((apply_enters _ step).mono fun e may => ?_)
    rw [Step.mayEnter_unsurveyed may]
    rfl

/-- Once permission is decided nobody is asked again. -/
theorem after_of_decided (s : Session) (steps : List Step) (decided : s.permission ≠ .undecided) :
    (s.after steps).permission = s.permission ∧
      answersIn (s.desk.world.since (s.after steps).desk.world) = [] := by
  induction steps using List.reverseRecOn with
  | nil => exact ⟨rfl, (World.Aside.refl _).unanswered⟩
  | append_singleton steps step ih =>
    obtain ⟨kept, unasked⟩ := ih
    have settled : (s.after steps).permission.canPrompt = false := by
      simpa [Permission.canPrompt, kept] using decided
    have quiet := apply_answers (s.after steps) step
    rw [after_append]
    constructor
    · rw [apply_permission, settled, Bool.and_false]
      exact kept
    · rw [(s.after_enters steps).since_trans (apply_enters (s.after steps) step), answersIn_append,
        unasked, List.nil_append]
      refine quiet.trans ?_
      rw [settled, Bool.and_false]
      rfl

theorem reconcile_enters (w : World) (c : Capabilities) (stored : Settings) :
    w.Enters Event.isRecord (reconcile w c stored).1 := by
  rw [reconcile_eq]
  split
  · have first : w.Enters Event.isRecord (w.enterAll [.noted (.alertsTurnedOff c.permission)]) :=
      enters_enterAll w _ (by simp [Event.isRecord])
    exact first.trans (save_enters _ _)
  · exact .refl w

/-- A start asks the surroundings for their account once, and the user for nothing. -/
theorem start_entries (w : World) (scope : String) :
    w.Enters (fun _ => true) (start w scope).desk.world ∧
      (w.since (start w scope).desk.world).countP Event.isSurvey = 1 ∧
      answersIn (w.since (start w scope).desk.world) = [] := by
  have opened : w.Enters (fun _ => true) (w.enterAll (openingEntries w)) :=
    enters_enterAll w _ (fun _ _ => rfl)
  have settled := reconcile_enters (w.enterAll (openingEntries w)) w.offer w.stored
  have surveys : (openingEntries w).countP Event.isSurvey = 1 := by
    unfold openingEntries World.loadEntries
    split <;> rfl
  have unasked : answersIn (openingEntries w) = [] := by
    unfold openingEntries World.loadEntries
    split <;> rfl
  rw [start_eq]
  refine ⟨opened.trans (settled.mono fun _ _ => rfl), ?_, ?_⟩
  · have others := settled.countP_eq_zero Event.isSurvey fun {e} record => by
      cases e <;> first | rfl | cases record
    rw [Desk.new, opened.since_trans settled, World.since_enterAll, List.countP_append, surveys,
      others]
  · rw [Desk.new, opened.since_trans settled, World.since_enterAll, answersIn_append, unasked,
      settled.unanswered Event.answer?_of_isRecord]
    rfl

theorem offer_decided (w : World)
    (able : w.outside.platform.environment.notificationApi = false ∨
      ∃ origin client? device, w.outside.platform = Desktop.platform origin client? device) :
    w.offer.permission ≠ .undecided := by
  rcases able with missing | ⟨origin, client?, device, desktop⟩
  · simp [World.offer, Environment.capabilities, missing]
  · rw [World.offer, desktop]
    cases client? <;> simp [Environment.capabilities, Desktop.platform, Desktop.permission]

/-- Whatever the surroundings answer and in whatever order things happen: they are asked for their
account of themselves once, at the start; every step calls only what it may, and prompts the user
exactly if it asks for permission and that is undecided; the permissions of a session are some
undecided ones and then one that stays, after which nobody is prompted; and without an interface, or
on a desktop, nobody is prompted at all. -/
theorem calls_are_licensed (w : World) (scope : String) (steps : List Step) :
    (∀ step, ((start w scope).after steps).Licensed step) ∧
    (w.since (start w scope).desk.world).countP Event.isSurvey = 1 ∧
    (w.since ((start w scope).after steps).desk.world).countP Event.isSurvey = 1 ∧
    (∃ n last, permissions (start w scope) steps =
      List.replicate n .undecided ++ List.replicate (steps.length + 1 - n) last) ∧
    (((start w scope).after steps).permission ≠ .undecided → ∀ more,
      (((start w scope).after steps).after more).permission = ((start w scope).after steps).permission ∧
        answersIn (((start w scope).after steps).desk.world.since
          (((start w scope).after steps).after more).desk.world) = []) ∧
    ((w.outside.platform.environment.notificationApi = false ∨
        ∃ origin client? device, w.outside.platform = Desktop.platform origin client? device) →
      answersIn (w.since ((start w scope).after steps).desk.world) = []) := by
  obtain ⟨opened, surveyed, unasked⟩ := start_entries w scope
  have later := (start w scope).after_enters steps
  have trail := opened.since_trans later
  refine ⟨licensed _, surveyed, ?_, permissions_settle steps _, ?_, ?_⟩
  · have others := later.countP_eq_zero Event.isSurvey (by simp)
    rw [trail, List.countP_append, surveyed, others]
  · intro decided more
    exact after_of_decided _ more decided
  · intro able
    have permission : (start w scope).permission = w.offer.permission := by rw [start_eq]
    have settled := after_of_decided (start w scope) steps (permission ▸ offer_decided w able)
    rw [trail, answersIn_append, unasked, settled.2]
    rfl

/-- A prompt that is dismissed the first time and grants after that. -/
def hesitantWorld : World where
  outside := {
    platform := { Scripted.platform ⟨⟨true, true, .undecided⟩, none, false, false, false⟩ with
      prompt := fun n => .ok (if n = 0 then .undecided else .granted) }
    host := Scripted.host false
    saveFault := fun _ => none }
  disk := ⟨settingsFile, .absent⟩
  journal := []

/-- A desktop without a client. -/
def clientlessWorld : World :=
  { undecidedWorld with outside.platform := Desktop.platform "" none fun _ => ⟨true, none⟩ }

/-- The first prompt is dismissed and the second one decides for good. On a desktop nobody is prompted
at all. -/
theorem prompted_until_decided :
    permissions (start hesitantWorld "") [.requestPermission, .setEnabled true] =
        [.undecided, .undecided, .granted] ∧
      (∀ more, (((start hesitantWorld "").after [.requestPermission, .setEnabled true]).after
        more).permission = .granted) ∧
      answersIn (clientlessWorld.since
        ((start clientlessWorld "").after [.requestPermission]).desk.world) = [] := by
  have decided : ((start hesitantWorld "").after [.requestPermission, .setEnabled true]).permission =
      .granted := by decide +kernel
  obtain ⟨-, -, -, -, stays, -⟩ :=
    calls_are_licensed hesitantWorld "" [.requestPermission, .setEnabled true]
  obtain ⟨-, -, -, -, -, unasked⟩ := calls_are_licensed clientlessWorld "" [.requestPermission]
  refine ⟨by decide +kernel, ?_, unasked (Or.inr ⟨"", none, fun _ => ⟨true, none⟩, rfl⟩)⟩
  intro more
  exact (stays (by rw [decided]; decide) more).1.trans decided

end Session
end AlertRelay
