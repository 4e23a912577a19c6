import AlertRelay.Proofs.Desk.Delivery

/-!
# Alerts on their way through the desk

With a permission no alert is held back: each is handed over once, to the channel as long as that
has room and to the foreground from then on, and is followed by tone and vibration exactly when
sound is on. The queue grows by the alerts that were handed to it, in their order.
-/
namespace AlertRelay

/-- What became of one alert. -/
structure Handling where
  decision : Decision
  handover : Handover
  /-- The answers to tone and vibration, where these were tried. -/
  feedback? : Option (Option PlatformError × Option PlatformError)
  deriving DecidableEq, Repr

namespace Handling

def feedbackCalls : Option (Option PlatformError × Option PlatformError) → List Event
  | none => []
  | some (tone?, still?) => [.toned alertTone .detached tone?, .vibrated vibrationPattern still?]

/-- The calls that an alert came to. -/
def calls (registered : Bool) (h : Handling) : List Event :=
  h.handover.calls registered h.decision.request ++ feedbackCalls h.feedback?

end Handling

namespace Event

/-- The channel took a request. -/
def isAcceptance : Event → Bool
  | offered _ accepted => accepted
  | _ => false

/-- A request was shown from the foreground. -/
def isShowing : Event → Bool
  | notified _ refusal? => refusal?.isNone
  | _ => false

theorem countP_filter_isCall (kind : Event → Bool) (silent : ∀ n, kind (.noted n) = false)
    (es : List Event) : (es.filter isCall).countP kind = es.countP kind := by
  rw [List.countP_filter]
  refine List.countP_congr fun e _ => ?_
  cases e <;> simp [isCall, notice?, silent]

end Event

theorem Handling.calls_delivered (registered : Bool) (h : Handling) :
    (h.calls registered).countP Event.isAcceptance + (h.calls registered).countP Event.isShowing =
      if h.handover.isDelivered then 1 else 0 := by
  obtain ⟨decision, handover, feedback?⟩ := h
  have quiet : (feedbackCalls feedback?).countP Event.isAcceptance = 0 ∧
      (feedbackCalls feedback?).countP Event.isShowing = 0 := by
    cases feedback? <;> exact ⟨rfl, rfl⟩
  simp only [calls, List.countP_append, quiet]
  cases handover with
  | queued => rfl
  | foreground refusal? => cases registered <;> cases refusal? <;> rfl

theorem countP_calls_delivered (registered : Bool) (hs : List Handling) :
    (hs.flatMap (Handling.calls registered)).countP Event.isAcceptance +
      (hs.flatMap (Handling.calls registered)).countP Event.isShowing =
      hs.countP fun h => h.handover.isDelivered := by
  induction hs with
  | nil => rfl
  | cons h hs ih =>
    have head := h.calls_delivered registered
    simp only [List.flatMap_cons, List.countP_append, List.countP_cons]
    omega

namespace Desk

/-- With permission an alert is offered or shown, and feedback follows where sound is on. -/
theorem dispatch_spec (d : Desk) (c : Capabilities) (s : Settings) (alert : Decision)
    (allowed : c.canNotify = true) :
    ∃ feedback? es, d.dispatch .channelFirst c s alert =
        ((d.offered alert.request).enterAll es, (d.handover alert.request).isDelivered) ∧
      feedback?.isSome = s.soundEnabled ∧
      es.filter Event.isCall =
        Handling.calls d.isRegistered ⟨alert, d.handover alert.request, feedback?⟩ ∧
      ∀ key, .noted (.withheld key) ∉ es := by
  have shown := present_eq d alert.request
  have calls := filter_isCall_handoverEntries d alert.request
  have plain := withheld_notMem_handoverEntries d alert.request
  cases sound : s.soundEnabled with
  | false =>
    refine ⟨none, d.handoverEntries alert.request, ?_, rfl, ?_, plain⟩
    · simp [dispatch, allowed, shown, sound]
    · simp [Handling.calls, Handling.feedbackCalls, calls]
  | true =>
    let after := (d.offered alert.request).enterAll (d.handoverEntries alert.request)
    let tone? := after.world.toneRefusal? alertTone .detached
    let still? := after.world.vibrationRefusal? vibrationPattern
    refine ⟨some (tone?, still?),
      d.handoverEntries alert.request ++ feedbackEntries .detached tone? still?, ?_, rfl, ?_, ?_⟩
    · simp [dispatch, allowed, shown, sound, feedback_eq, tone?, still?, after]
    · rw [List.filter_append, calls, filter_isCall_feedbackEntries]
      rfl
    · intro key
      simp [plain key, feedbackEntries, mem_told]

/-- Alerts in their order: the first ones fill the room of the channel, the others are shown. -/
theorem dispatchAll_spec (ds : List Decision) (d : Desk) (c : Capabilities) (s : Settings)
    (allowed : ds ≠ [] → c.canNotify = true) :
    ∃ (hs : List Handling) (es : List Event),
      d.dispatchAll c s ds = ((d.offeredAll (ds.map Decision.request)).enterAll es,
        hs.countP fun h => h.handover.isDelivered) ∧
      hs.map Handling.decision = ds ∧
      (∀ h ∈ hs.take d.room, h.handover.isQueued = true) ∧
      (∀ h ∈ hs.drop d.room, h.handover.isQueued = false) ∧
      (∀ h ∈ hs, h.feedback?.isSome = s.soundEnabled) ∧
      es.filter Event.isCall = hs.flatMap (Handling.calls d.isRegistered) ∧
      ∀ key, .noted (.withheld key) ∉ es := by
  induction ds generalizing d with
  | nil => exact ⟨[], [], rfl, rfl, by simp, by simp, by simp, rfl, by simp⟩
  | cons alert rest ih =>
    -- The first alert takes one slot, if there is one, and leaves the rest to the others.
    have now := allowed (List.cons_ne_nil alert rest)
    obtain ⟨feedback?, es, first, sound, calls, plain⟩ := dispatch_spec d c s alert now
    let next := (d.offered alert.request).enterAll es
    obtain ⟨hs, fs, others, decisions, queued, shown, sounds, callsAll, plainAll⟩ :=
      ih next fun _ => now
    have room : next.room = d.room - 1 := offered_room d alert.request
    have registered : next.isRegistered = d.isRegistered := offered_isRegistered d alert.request
    have way : (d.handover alert.request).isQueued = decide (0 < d.room) := by
      unfold handover
      split <;> simp_all [Handover.isQueued]
    rw [room] at queued shown
    rw [registered] at callsAll
    refine ⟨⟨alert, d.handover alert.request, feedback?⟩ :: hs, es ++ fs, ?_, ?_, ?_, ?_, ?_, ?_, ?_⟩
    · simp only [dispatchAll, first, others, next, offeredAll_enterAll, enterAll_enterAll,
        List.countP_cons]
      cases (d.handover alert.request).isDelivered <;> rfl
    · rw [List.map_cons, decisions]
    · cases free : d.room with
      | zero => simp
      | succ n =>
        rw [free] at way queued
        simpa [way] using queued
    · cases free : d.room with
      | zero =>
        rw [free] at way shown
        simpa [way] using shown
      | succ n =>
        rw [free] at shown
        simpa using shown
    · simpa [sound] using sounds
    · rw [List.filter_append, calls, callsAll, List.flatMap_cons]
    · intro key
      simp [plain key, plainAll key]

/-! ## The manual test -/

theorem feedback_calls (d : Desk) (p : Playback) :
    ∃ tone? still? es, (d.feedback p).1.world = d.world.enterAll es ∧
      es.filter Event.isCall = [.toned alertTone p tone?, .vibrated vibrationPattern still?] := by
  rw [feedback_eq]
  exact ⟨_, _, _, rfl, filter_isCall_feedbackEntries p _ _⟩

/-- A test tries tone and vibration, whatever became of its request. -/
theorem test_calls (d : Desk) (c : Capabilities) :
    ∃ tone? still? es, (d.test .channelFirst c).1.world = d.world.enterAll es ∧
      es.filter Event.isCall =
        (if c.canNotify then (d.handover .manualTest).calls d.isRegistered .manualTest else []) ++
          [.toned alertTone .confirmed tone?, .vibrated vibrationPattern still?] := by
  cases allowed : c.canNotify with
  | false => simpa [test, allowed] using d.feedback_calls .confirmed
  | true =>
    obtain ⟨tone?, still?, es, world, calls⟩ :=
      (d.present .channelFirst .manualTest).1.feedback_calls .confirmed
    refine ⟨tone?, still?, d.handoverEntries .manualTest ++ es, ?_, ?_⟩
    · simp only [test, allowed, if_true]
      rw [world, present_eq, ← World.enterAll_enterAll]
      rfl
    · rw [List.filter_append, filter_isCall_handoverEntries, calls]
      rfl

end Desk
end AlertRelay
