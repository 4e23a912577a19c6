import AlertRelay.Proofs.Desk.Worker

/-!
# Failures and what is told of them

A failure is followed at once by a warning of its own kind, which names the cause, and by no other one;
whatever succeeds is followed by none. That is so of every list of entries that an operation of the
desk makes, so it is so of all of them together. A refusal by the channel has no error to name and
names the scope.

Most failures are those of a call and show with its answer. Two come to light later: a client that was
started in the background may end badly, and the thread of a detached tone may find no device. Each of
these is an entry of its own, founded in an earlier call.
-/
namespace AlertRelay

/-- What failed, and why. -/
inductive Failure where
  | prompt (e : PlatformError)
  | installation (e : PlatformError)
  /-- The channel had no room for a request. -/
  | full (scope : String)
  /-- Nobody is left to take a request from the channel. -/
  | unattended (scope : String)
  | notification (tag : String) (e : PlatformError)
  | tone (e : PlatformError)
  | vibration (e : PlatformError)
  | save (fault : IoFault)
  /-- A background delivery ended badly. -/
  | exit (status : ExitStatus)
  /-- A background delivery did not begin. -/
  | delivery (fault : IoFault)
  /-- The audio device did not open for a detached tone. -/
  | device (reason : String)
  deriving DecidableEq, Repr

namespace Failure

/-- What the operator is told. -/
def notice : Failure → Notice
  | prompt e => .promptFailed e
  | installation e => .channelFailed e
  | full scope => .channelFull scope
  | unattended scope => .channelUnattended scope
  | notification tag e => .notShown tag e
  | tone e => .toneFailed e
  | vibration e => .vibrationFailed e
  | save fault => .settingsNotSaved fault
  | exit status => .deliveryExited status
  | delivery fault => .deliveryFailed fault
  | device reason => .toneLost reason

/-- The wording of the cause, or the scope where there is none. -/
def cause : Failure → String
  | prompt e | installation e | notification _ e | tone e | vibration e => e.message
  | full scope | unattended scope => scope
  | device reason => reason
  | save fault | delivery fault => fault.message
  | exit status => status.message

theorem notice_level (f : Failure) : f.notice.level = .warn := by cases f <;> rfl

theorem notice_text (f : Failure) : ∃ before after, f.notice.text = before ++ f.cause ++ after := by
  cases f with
  | full _ | unattended _ => exact ⟨_, _, rfl⟩
  | _ => exact ⟨_, "", String.append_empty.symm⟩

end Failure

/-- The failure that a warning is about. -/
def Notice.failure? : Notice → Option Failure
  | promptFailed e => some (.prompt e)
  | channelFailed e => some (.installation e)
  | channelFull scope => some (.full scope)
  | channelUnattended scope => some (.unattended scope)
  | notShown tag e => some (.notification tag e)
  | toneFailed e => some (.tone e)
  | vibrationFailed e => some (.vibration e)
  | settingsNotSaved fault => some (.save fault)
  | deliveryExited how => some (.exit how)
  | deliveryFailed fault => some (.delivery fault)
  | toneLost reason => some (.device reason)
  | _ => none

@[simp] theorem Failure.failure?_notice (f : Failure) : f.notice.failure? = some f := by
  cases f <;> rfl

/-- Different failures are told differently. -/
theorem Notice.failure?_eq_some_iff {n : Notice} {f : Failure} :
    n.failure? = some f ↔ n = f.notice := by
  constructor
  · intro h
    cases n <;> cases h <;> rfl
  · rintro rfl
    exact f.failure?_notice

namespace Event

def isFailure : Event → Bool
  | prompted (.error _) | installed _ (.error _) | offered _ false => true
  | notified _ refusal? | toned _ _ refusal? | vibrated _ refusal? => refusal?.isSome
  | launched _ fault? | saved _ fault? => fault?.isSome
  | exited _ status => !status.isSuccess
  | opened _ fault? => fault?.isSome
  | _ => false

/-- The failure that shows here, if one does; `refusal?` is what a refusal by the channel counts as. -/
def failure? (refusal? : Option Failure) : Event → Option Failure
  | prompted (.error e) => some (.prompt e)
  | installed _ (.error e) => some (.installation e)
  | offered _ false => refusal?
  | notified r refused? => refused?.map (.notification r.tag)
  | toned _ _ refused? => refused?.map .tone
  | vibrated _ refused? => refused?.map .vibration
  | launched _ fault? => fault?.map .delivery
  | exited _ status => if status.isSuccess then none else some (.exit status)
  | opened _ fault? => fault?.map .device
  | saved _ fault? => fault?.map .save
  | _ => none

/-- The failure that is told of. -/
def warning? (e : Event) : Option Failure := e.notice?.bind Notice.failure?

theorem isFailure_of_failure? {refusal? : Option Failure} {e : Event} {f : Failure}
    (h : e.failure? refusal? = some f) : e.isFailure = true ∧ e.warning? = none := by
  unfold failure? at h
  split at h <;> (try obtain ⟨_, rfl, -⟩ := Option.map_eq_some_iff.mp h) <;>
    simp_all [isFailure, warning?, notice?]

end Event

def failuresIn (refusal? : Option Failure) (es : List Event) : List Failure :=
  es.filterMap (Event.failure? refusal?)

def warningsIn (es : List Event) : List Failure := es.filterMap Event.warning?

theorem warningsIn_append (es fs : List Event) :
    warningsIn (es ++ fs) = warningsIn es ++ warningsIn fs := List.filterMap_append

/-- Every failure is followed at once by its warning, and there are no other such warnings. -/
inductive Reported (refusal? : Option Failure) : List Event → Prop
  | nil : Reported refusal? []
  | plain {e : Event} {es : List Event} (fine : e.isFailure = false) (silent : e.warning? = none)
      (rest : Reported refusal? es) : Reported refusal? (e :: es)
  | failed {e : Event} {f : Failure} {es : List Event} (failed : e.failure? refusal? = some f)
      (rest : Reported refusal? es) : Reported refusal? (e :: .noted f.notice :: es)

variable {refusal? : Option Failure}

theorem Event.failure?_of_fine {e : Event} (fine : e.isFailure = false) :
    e.failure? refusal? = none := by
  cases failed : e.failure? refusal? with
  | none => rfl
  | some f =>
    rw [(isFailure_of_failure? failed).1] at fine
    cases fine

namespace Reported

theorem append {es fs : List Event} (first : Reported refusal? es) (second : Reported refusal? fs) :
    Reported refusal? (es ++ fs) := by
  induction first with
  | nil => exact second
  | plain fine silent _ ih => exact .plain fine silent ih
  | failed failed _ ih => exact .failed failed ih

theorem of_notices {ns : List Notice} (silent : ∀ n ∈ ns, n.failure? = none) :
    Reported refusal? (ns.map .noted) := by
  induction ns with
  | nil => exact .nil
  | cons n ns ih =>
    obtain ⟨first, rest⟩ := List.forall_mem_cons.mp silent
    exact .plain rfl first (ih rest)

/-- The warnings are the failures, in the order in which they show. -/
theorem warnings_eq_failures {es : List Event} (h : Reported refusal? es) :
    warningsIn es = failuresIn refusal? es := by
  induction h with
  | nil => rfl
  | plain fine silent _ ih =>
    rw [warningsIn, failuresIn, List.filterMap_cons_none silent,
      List.filterMap_cons_none (Event.failure?_of_fine fine)]
    exact ih
  | @failed e f es failed _ ih =>
    have quiet : e.warning? = none := (Event.isFailure_of_failure? failed).2
    have told : (Event.noted f.notice).warning? = some f := f.failure?_notice
    rw [warningsIn, failuresIn, List.filterMap_cons_none quiet, List.filterMap_cons_some told,
      List.filterMap_cons_some failed, List.filterMap_cons_none rfl]
    exact congrArg (f :: ·) ih

/-- There is one warning for each failure. -/
theorem length_warnings {es : List Event} (h : Reported refusal? es) :
    (warningsIn es).length = es.countP Event.isFailure := by
  induction h with
  | nil => rfl
  | plain fine silent _ ih =>
    rw [warningsIn, List.filterMap_cons_none silent, List.countP_cons_of_neg (by simp [fine])]
    exact ih
  | @failed e f es failed _ ih =>
    obtain ⟨apparent, quiet⟩ := Event.isFailure_of_failure? failed
    have told : (Event.noted f.notice).warning? = some f := f.failure?_notice
    rw [warningsIn, List.filterMap_cons_none quiet, List.filterMap_cons_some told,
      List.countP_cons_of_pos apparent, List.countP_cons_of_neg (by simp [Event.isFailure])]
    exact congrArg (· + 1) ih

end Reported

namespace World

/-- The journal grew, and what failed in it was told of. -/
def Reports (refusal? : Option Failure) (w v : World) : Prop :=
  ∃ es, v.history = w.history ++ es ∧ Reported refusal? es

variable {w v u : World}

theorem Reports.refl (w : World) : w.Reports refusal? w := ⟨[], by simp, .nil⟩

theorem Reports.trans (first : w.Reports refusal? v) (second : v.Reports refusal? u) :
    w.Reports refusal? u := by
  obtain ⟨es, grown, told⟩ := first
  obtain ⟨fs, grown', told'⟩ := second
  exact ⟨es ++ fs, by rw [grown', grown, List.append_assoc], told.append told'⟩

theorem reports_enterAll {es : List Event} (told : Reported refusal? es) (w : World) :
    w.Reports refusal? (w.enterAll es) := ⟨es, history_enterAll w es, told⟩

theorem Reports.since (h : w.Reports refusal? v) :
    v.history = w.history ++ w.since v ∧ Reported refusal? (w.since v) := by
  obtain ⟨es, grown, told⟩ := h
  rw [since_of_history grown]
  exact ⟨grown, told⟩

end World

theorem shownEntries_reported (r : Request) (refused? : Option PlatformError) :
    Reported refusal? (shownEntries r refused?) := by
  cases refused? with
  | none => exact .plain rfl rfl .nil
  | some e => exact .failed (f := .notification r.tag e) rfl .nil

theorem feedbackEntries_reported (p : Playback) (tone? still? : Option PlatformError) :
    Reported refusal? (feedbackEntries p tone? still?) := by
  refine .append ?_ ?_
  · cases tone? with
    | none => exact .plain rfl rfl .nil
    | some e => exact .failed (f := .tone e) rfl .nil
  · cases still? with
    | none => exact .plain rfl rfl .nil
    | some e => exact .failed (f := .vibration e) rfl .nil

/-- What a refusal by the channel counts as. -/
def Channel.refusal (c : Channel) : Failure :=
  if c.worker = .gone then .unattended c.scope else .full c.scope

theorem Channel.offer_refusal (c : Channel) (r : Request) : (c.offer r).1.refusal = c.refusal := by
  unfold offer
  split
  · rfl
  · split <;> rfl

namespace Desk

open World (reports_enterAll)

def channelRefusal? (d : Desk) : Option Failure := d.channel?.map Channel.refusal

theorem channelRefusal?_mapChannel (d : Desk) {f : Channel → Channel}
    (same : ∀ c : Channel, (f c).refusal = c.refusal) : (d.mapChannel f).channelRefusal? = d.channelRefusal? := by
  cases h : d.channel? <;> simp [channelRefusal?, mapChannel, h, same]

/-- What was done at the desk failed audibly, and the channel refuses as it did. -/
structure Reports (d after : Desk) : Prop where
  world : d.world.Reports d.channelRefusal? after.world
  refusal : after.channelRefusal? = d.channelRefusal?

theorem Reports.refl (d : Desk) : d.Reports d := ⟨.refl _, rfl⟩

theorem Reports.trans {d after later : Desk} (first : d.Reports after) (second : after.Reports later) :
    d.Reports later :=
  ⟨first.world.trans (first.refusal ▸ second.world), second.refusal.trans first.refusal⟩

theorem enterAll_reports (d : Desk) {es : List Event} (told : Reported d.channelRefusal? es) :
    d.Reports (d.enterAll es) := ⟨reports_enterAll told _, rfl⟩

/-! ## The foreground -/

theorem replyEntries_reported (c : Channel) (r : Request) :
    Reported (some c.refusal) (replyEntries c r) := by
  unfold replyEntries
  by_cases free : 0 < c.room
  · simp only [free, decide_true, if_true]
    exact .plain rfl rfl .nil
  · simp only [free, decide_false, if_false]
    have told : (if c.worker = .gone then Notice.channelUnattended c.scope
        else .channelFull c.scope) = c.refusal.notice := by
      unfold Channel.refusal
      split <;> rfl
    rw [told]
    exact .failed rfl .nil

theorem handoverEntries_reported (d : Desk) (r : Request) :
    Reported d.channelRefusal? (d.handoverEntries r) := by
  unfold handoverEntries
  split
  · exact .plain rfl rfl .nil
  · refine .append ?_ (shownEntries_reported _ _)
    cases h : d.channel? with
    | none => exact .nil
    | some c =>
      have refused : d.channelRefusal? = some c.refusal := by simp [channelRefusal?, h]
      rw [refused]
      exact (replyEntries_reported c r).append (.plain rfl rfl .nil)

theorem present_reports (d : Desk) (r : Request) : d.Reports (d.present .channelFirst r).1 := by
  have same : (d.offered r).channelRefusal? = d.channelRefusal? :=
    d.channelRefusal?_mapChannel fun c => c.offer_refusal r
  rw [present_eq]
  exact ⟨reports_enterAll (handoverEntries_reported d r) _, same⟩

theorem feedback_reports (d : Desk) (p : Playback) : d.Reports (d.feedback p).1 := by
  rw [feedback_eq]
  exact enterAll_reports d (feedbackEntries_reported _ _ _)

/-- Sound follows whatever came of the request. -/
theorem dispatch_reports (d : Desk) (c : Capabilities) (s : Settings) (alert : Decision) :
    d.Reports (d.dispatch .channelFirst c s alert).1 := by
  unfold dispatch
  split
  · exact enterAll_reports d (.plain rfl rfl .nil)
  · have shown := present_reports d alert.request
    simp only
    split
    · exact shown.trans (feedback_reports _ _)
    · exact shown

theorem dispatchAll_reports (ds : List Decision) (d : Desk) (c : Capabilities) (s : Settings) :
    d.Reports (d.dispatchAll c s ds).1 := by
  induction ds generalizing d with
  | nil => exact .refl d
  | cons alert rest ih => exact (dispatch_reports d c s alert).trans (ih _)

theorem test_reports (d : Desk) (c : Capabilities) : d.Reports (d.test .channelFirst c).1 := by
  cases allowed : c.canNotify with
  | false => simpa [test, allowed] using feedback_reports d .confirmed
  | true =>
    have followed := (present_reports d .manualTest).trans (feedback_reports _ .confirmed)
    simpa [test, allowed] using followed

theorem registrationEntries_reported (d : Desk) (c : Capabilities) (scope : String) :
    Reported refusal? (d.registrationEntries c scope) := by
  unfold registrationEntries
  split
  · exact .plain rfl rfl .nil
  · split
    · exact .plain rfl rfl .nil
    · cases d.world.installation scope with
      | ok i => exact .plain rfl rfl (.plain rfl rfl .nil)
      | error e => exact .failed (f := .installation e) rfl .nil

/-- Whether or not it succeeds, registering tells of its failure. -/
theorem register_reports (d : Desk) (c : Capabilities) (scope : String) :
    d.world.Reports d.channelRefusal? (d.register c scope).1.world := by
  cases tried : d.attempted with
  | true =>
    rw [register_again c scope tried]
    exact .refl d.world
  | false =>
    rw [register_eq c scope tried]
    exact reports_enterAll (registrationEntries_reported d c scope) _

/-! ## Behind the foreground -/

theorem launchEntries_reported (r : Request) (outcome : Except IoFault ExitStatus) :
    Reported refusal? (launchEntries r outcome) := by
  cases outcome with
  | ok status => exact .plain rfl rfl .nil
  | error fault => exact .failed (f := .delivery fault) rfl .nil

theorem exitEntries_reported (r : Request) (status : ExitStatus) :
    Reported refusal? (exitEntries r status) := by
  cases success : status.isSuccess with
  | true =>
    simp only [exitEntries, success]
    exact .plain (by simp [Event.isFailure, success]) rfl .nil
  | false =>
    simp only [exitEntries, success]
    exact .failed (f := .exit status) (by simp [Event.failure?, success]) .nil

theorem deviceEntries_reported (n : Nat) (fault? : Option String) :
    Reported refusal? (deviceEntries n fault?) := by
  cases fault? with
  | none => exact .plain rfl rfl .nil
  | some reason => exact .failed (f := .device reason) rfl .nil

theorem begin_reports (d : Desk) : d.Reports d.begin := by
  rcases d.begin_cases with ⟨same, -⟩ | ⟨c, channel, waiting, begun⟩
  · rw [same]
    exact .refl d
  · rw [begun]
    exact ⟨reports_enterAll (.plain rfl rfl .nil) _,
      by simp [channelRefusal?, channel, Channel.refusal, waiting]⟩

theorem take_reports (d : Desk) : d.Reports d.take := by
  rcases d.take_cases with ⟨same, -⟩ | ⟨c, r, rest, channel, running, -, taken⟩
  · rw [same]
    exact .refl d
  · rw [taken]
    refine ⟨reports_enterAll (launchEntries_reported _ _) _, ?_⟩
    cases d.world.delivery r <;>
      simp [channelRefusal?, channel, Channel.refusal, Channel.launched, Channel.await, running]

theorem finish_reports (d : Desk) : d.Reports d.finish := by
  rcases d.finish_cases with ⟨same, -⟩ | ⟨c, r, status, channel, busy, finished⟩
  · rw [same]
    exact .refl d
  · rw [finished]
    exact ⟨reports_enterAll (exitEntries_reported _ _) _,
      by simp [channelRefusal?, channel, Channel.refusal, busy]⟩

theorem openTone_reports (d : Desk) (n : Nat) : d.Reports (d.openTone n) := by
  rw [openTone_eq]
  split
  · exact enterAll_reports d (deviceEntries_reported _ _)
  · exact .refl d

theorem settle_reports (d : Desk) : d.Reports d.settle := by
  have turns (n : Nat) : d.begin.finish.Reports (n.repeat takeNext d.begin.finish) := by
    induction n with
    | zero => exact .refl _
    | succ n ih => exact (ih.trans (take_reports _)).trans (finish_reports _)
  exact (d.begin_reports.trans (finish_reports _)).trans (turns _)

/-- Nothing happened but entries, and what they attempted was the first that was queued. -/
def Drains (d after : Desk) : Prop :=
  ∃ es, after.world = d.world.enterAll es ∧ attemptedIn es ++ after.queued = d.queued

theorem Drains.refl (d : Desk) : d.Drains d := ⟨[], rfl, rfl⟩

theorem Drains.trans {d after later : Desk} (first : d.Drains after) (second : after.Drains later) :
    d.Drains later := by
  obtain ⟨es, grown, left⟩ := first
  obtain ⟨fs, grown', left'⟩ := second
  refine ⟨es ++ fs, ?_, ?_⟩
  · rw [grown', grown, World.enterAll_enterAll]
  · rw [attemptedIn_append, List.append_assoc, left', left]

theorem begin_drains (d : Desk) : d.Drains d.begin := by
  rcases d.begin_cases with ⟨same, -⟩ | ⟨c, channel, -, begun⟩
  · rw [same]
    exact .refl d
  · rw [begun]
    exact ⟨_, rfl, by simp [queued, channel, attemptedIn, Event.attempted?]⟩

/-- A request is attempted whether or not its client starts. -/
theorem take_drains (d : Desk) : d.Drains d.take := by
  rcases d.take_cases with ⟨same, -⟩ | ⟨c, r, rest, channel, -, queue, taken⟩
  · rw [same]
    exact .refl d
  · rw [taken]
    refine ⟨_, rfl, ?_⟩
    rw [(launchEntries_attempt r _).2]
    simp [queued, channel, Channel.launched_queue, queue]

theorem finish_drains (d : Desk) : d.Drains d.finish := by
  rcases d.finish_cases with ⟨same, -⟩ | ⟨c, r, status, channel, -, finished⟩
  · rw [same]
    exact .refl d
  · rw [finished]
    refine ⟨_, rfl, ?_⟩
    rw [(exitEntries_quiet r status).2]
    simp [queued, channel]

theorem settle_drains (d : Desk) : d.Drains d.settle := by
  have turns (n : Nat) : d.begin.finish.Drains (n.repeat takeNext d.begin.finish) := by
    induction n with
    | zero => exact .refl _
    | succ n ih => exact (ih.trans (take_drains _)).trans (finish_drains _)
  exact (d.begin_drains.trans (finish_drains _)).trans (turns _)

/-- A worker that can run attempts everything that is queued, whatever comes of the requests before. -/
theorem settle_attempts {d : Desk} {c : Channel} (h : d.channel? = some c)
    (manned : c.worker.isManned = true) :
    attemptedIn (d.world.since d.settle.world) = c.queue ∧ d.settle.queued = [] := by
  obtain ⟨es, world, left⟩ := d.settle_drains
  obtain ⟨after, channel, -, empty, -⟩ := settle_channel? h manned
  have nothing : d.settle.queued = [] := by simp [queued, channel, empty]
  refine ⟨?_, nothing⟩
  rw [nothing, List.append_nil] at left
  rw [world, World.since_enterAll, left]
  simp [queued, h]

end Desk
end AlertRelay
