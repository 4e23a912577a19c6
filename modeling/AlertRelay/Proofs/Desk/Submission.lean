import AlertRelay.Proofs.Desk.Delivery

/-!
# Which requests an operation submits

Whatever the foreground does to the channel is to offer it some requests in an order. The journal
holds what was accepted and what a client was started for in the background, so the entries of an
operation tell the first and none of the second.
-/
namespace AlertRelay

namespace Event

/-- The request that the channel accepted. -/
def accepted? : Event → Option Request
  | offered r true => some r
  | _ => none

/-- The request that a client was to show in the background, whether or not it started. -/
def attempted? : Event → Option Request
  | launched r _ => some r
  | _ => none

end Event

def acceptedIn (es : List Event) : List Request := es.filterMap Event.accepted?

def attemptedIn (es : List Event) : List Request := es.filterMap Event.attempted?

theorem acceptedIn_append (es fs : List Event) :
    acceptedIn (es ++ fs) = acceptedIn es ++ acceptedIn fs := List.filterMap_append

theorem attemptedIn_append (es fs : List Event) :
    attemptedIn (es ++ fs) = attemptedIn es ++ attemptedIn fs := List.filterMap_append

theorem notices_quiet (ns : List Notice) :
    acceptedIn (ns.map .noted) = [] ∧ attemptedIn (ns.map .noted) = [] := by
  simp [acceptedIn, attemptedIn, Event.accepted?, Event.attempted?]

theorem shownEntries_quiet (r : Request) (refusal? : Option PlatformError) :
    acceptedIn (shownEntries r refusal?) = [] ∧ attemptedIn (shownEntries r refusal?) = [] := by
  cases refusal? <;> exact ⟨rfl, rfl⟩

theorem feedbackEntries_quiet (p : Playback) (tone? still? : Option PlatformError) :
    acceptedIn (feedbackEntries p tone? still?) = [] ∧
      attemptedIn (feedbackEntries p tone? still?) = [] := by
  cases tone? <;> cases still? <;> exact ⟨rfl, rfl⟩

namespace Desk

/-- Requests were offered in an order; apart from that only entries were made, and they tell which
requests were accepted. -/
def Submits (d : Desk) (rs : List Request) (after : Desk) : Prop :=
  ∃ es, after = (d.offeredAll rs).enterAll es ∧ acceptedIn es = rs.take d.room ∧ attemptedIn es = []

theorem submits_nothing (d : Desk) (es : List Event)
    (quiet : acceptedIn es = [] ∧ attemptedIn es = []) : d.Submits [] (d.enterAll es) :=
  ⟨es, rfl, by simpa using quiet.1, quiet.2⟩

theorem Submits.trans {d after later : Desk} {rs ts : List Request} (first : d.Submits rs after)
    (second : after.Submits ts later) : d.Submits (rs ++ ts) later := by
  obtain ⟨es, rfl, accepts, attempts⟩ := first
  obtain ⟨fs, rfl, accepts', attempts'⟩ := second
  have left : ((d.offeredAll rs).enterAll es).room = d.room - rs.length := offeredAll_room rs d
  refine ⟨es ++ fs, ?_, ?_, ?_⟩
  · rw [offeredAll_enterAll, enterAll_enterAll]
    simp only [offeredAll, List.foldl_append]
  · rw [acceptedIn_append, accepts, accepts', left, List.take_append]
  · rw [attemptedIn_append, attempts, attempts', List.append_nil]

theorem replyEntries_quiet (c : Channel) (r : Request) (full : ¬ 0 < c.room) :
    acceptedIn (replyEntries c r) = [] ∧ attemptedIn (replyEntries c r) = [] := by
  simp only [replyEntries, full, decide_false, if_false]
  exact ⟨rfl, rfl⟩

theorem handoverEntries_submit (d : Desk) (r : Request) :
    acceptedIn (d.handoverEntries r) = [r].take d.room ∧ attemptedIn (d.handoverEntries r) = [] := by
  unfold handoverEntries
  by_cases free : 0 < d.room
  · rw [if_pos free, List.take_of_length_le free]
    exact ⟨rfl, rfl⟩
  · have none_left : d.room = 0 := by omega
    have shown := shownEntries_quiet r (d.world.refusal? r)
    rw [if_neg free, none_left, acceptedIn_append, attemptedIn_append, shown.1, shown.2]
    cases h : d.channel? with
    | none => exact ⟨rfl, rfl⟩
    | some c =>
      have refused := replyEntries_quiet c r (room_of_channel h ▸ free)
      simp only [fallbackEntries, acceptedIn_append, attemptedIn_append, refused]
      exact ⟨rfl, rfl⟩

theorem present_submits (d : Desk) (r : Request) :
    d.Submits [r] (d.present .channelFirst r).1 := by
  rw [present_eq]
  exact ⟨d.handoverEntries r, rfl, handoverEntries_submit d r⟩

theorem feedback_submits (d : Desk) (p : Playback) : d.Submits [] (d.feedback p).1 := by
  rw [feedback_eq]
  exact submits_nothing d _ (feedbackEntries_quiet _ _ _)

/-- An alert submits its request where notifications are allowed, and nothing otherwise. -/
theorem dispatch_submits (d : Desk) (c : Capabilities) (s : Settings) (alert : Decision) :
    d.Submits (if c.canNotify then [alert.request] else [])
      (d.dispatch .channelFirst c s alert).1 := by
  cases allowed : c.canNotify with
  | false =>
    simp only [dispatch, allowed]
    exact submits_nothing d [.noted (.withheld alert.key)] ⟨rfl, rfl⟩
  | true =>
    have shown := present_submits d alert.request
    cases sound : s.soundEnabled with
    | false => simpa [dispatch, allowed, sound] using shown
    | true =>
      have followed := shown.trans (feedback_submits _ .detached)
      simpa [dispatch, allowed, sound] using followed

theorem test_submits (d : Desk) (c : Capabilities) :
    d.Submits (if c.canNotify then [.manualTest] else []) (d.test .channelFirst c).1 := by
  cases allowed : c.canNotify with
  | false => simpa [test, allowed] using feedback_submits d .confirmed
  | true =>
    have shown := present_submits d .manualTest
    have followed := shown.trans (feedback_submits _ .confirmed)
    simpa [test, allowed] using followed

/-! ## Operations that submit nothing -/

/-- What a first try for the channel enters. -/
def registrationEntries (d : Desk) (c : Capabilities) (scope : String) : List Event :=
  if !c.apiAvailable then [.noted .channelWithoutApi]
  else if !c.secureContext then [.noted .channelInsecure]
  else
    match d.world.installation scope with
    | .ok i => [.installed scope (.ok i), .noted (.channelRegistered scope)]
    | .error e => [.installed scope (.error e), .noted (.channelFailed e)]

/-- The channel that a first try gives. -/
def installed? (d : Desk) (c : Capabilities) (scope : String) : Option Channel :=
  if c.apiAvailable && c.secureContext then
    (d.world.installation scope).toOption.map fun i => .install scope i.capacity i.staffed
  else none

theorem register_again {d : Desk} (c : Capabilities) (scope : String) (tried : d.attempted = true) :
    d.register c scope = (d, d.isRegistered) := by rw [register, if_pos tried]

theorem register_eq {d : Desk} (c : Capabilities) (scope : String) (untried : d.attempted = false) :
    d.register c scope =
      ({ d with
        attempted := true
        channel? := (d.installed? c scope).or d.channel? }.enterAll (d.registrationEntries c scope),
        (d.installed? c scope).isSome) := by
  unfold register registrationEntries installed?
  rw [untried]
  cases c.apiAvailable with
  | false => rfl
  | true =>
    cases c.secureContext with
    | false => rfl
    | true =>
      simp only [World.install_eq]
      cases d.world.installation scope <;> rfl

/-- A first try that succeeds leaves the channel as its host describes it. -/
theorem register_installs {d : Desk} {c : Capabilities} {scope : String}
    (untried : d.attempted = false) (registered : (d.register c scope).2 = true) :
    ∃ i, d.world.installation scope = .ok i ∧ (d.register c scope).1 =
      { d with
        attempted := true
        channel? := some (.install scope i.capacity i.staffed) }.enterAll
          [.installed scope (.ok i), .noted (.channelRegistered scope)] := by
  rw [register_eq c scope untried] at registered ⊢
  obtain ⟨channel, gave⟩ := Option.isSome_iff_exists.mp registered
  rw [gave]
  unfold installed? at gave
  split at gave
  next able =>
    obtain ⟨i, installed, rfl⟩ := Option.map_eq_some_iff.mp gave
    obtain ⟨api, secure⟩ := Bool.and_eq_true_iff.mp able
    have outcome : d.world.installation scope = .ok i := by
      cases outcome : d.world.installation scope with
      | error e => rw [outcome] at installed; cases installed
      | ok j => rw [outcome] at installed; cases installed; rfl
    exact ⟨i, outcome, by simp [registrationEntries, api, secure, outcome]⟩
  next => cases gave

/-- What is told when the reports of the worker are collected. -/
def reportNotices (d : Desk) : List Notice :=
  match d.channel? with
  | none => []
  | some c => c.unread.map (.channelReport c.scope)

/-- The desk with those reports collected. -/
def collected (d : Desk) : Desk := d.mapChannel fun c => c.collect.1

theorem poll_eq (d : Desk) : d.poll.1 = d.collected.noteAll d.reportNotices := by
  cases h : d.channel? with
  | none =>
    simp only [poll, collected, mapChannel, h, reportNotices, Option.map_none]
    rw [← h]
    rfl
  | some c =>
    simp only [poll, h, reportNotices, collected, mapChannel, Channel.collect, Option.map_some]

@[simp] theorem collected_world (d : Desk) : d.collected.world = d.world := rfl

theorem collected_room (d : Desk) : d.collected.room = d.room := by
  cases h : d.channel? <;> simp [collected, mapChannel, room, h, Channel.collect, Channel.room]

theorem collected_queued (d : Desk) : d.collected.queued = d.queued := by
  cases h : d.channel? <;> simp [collected, mapChannel, queued, h, Channel.collect]

theorem collected_isRegistered (d : Desk) : d.collected.isRegistered = d.isRegistered := by
  simp [collected, mapChannel, isRegistered]

end Desk
end AlertRelay
