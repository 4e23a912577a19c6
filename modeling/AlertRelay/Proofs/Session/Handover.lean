import AlertRelay.Proofs.Desk.Alerts
import AlertRelay.Proofs.Engine.Observation
import AlertRelay.Proofs.Session.Permission

/-!
# No fire is lost on the way out

The engine remembers a key as notified before anybody asks whether a notification may be shown, so
an alert held back would be lost. None is: what fires fires with alerts enabled, and these come
with a permission. Every alert of a poll is then handed over once, to the channel while that has
room and to the foreground after that.
-/
namespace AlertRelay

theorem Event.filter_isCall_noted (ns : List Notice) :
    (ns.map Event.noted).filter isCall = [] := by
  rw [List.filter_eq_nil_iff]
  intro e member
  obtain ⟨n, -, rfl⟩ := List.mem_map.mp member
  simp [isCall, notice?]

namespace Session

/-- Everything entered in the course of a poll. -/
def pollEntries (s : Session) (batch : Batch) : List Event :=
  s.desk.world.since (s.processBatch batch).1.desk.world

/-- What a poll does with its alerts, `hs` telling the handling of each. -/
structure HandedOver (s : Session) (batch : Batch) (hs : List Handling) : Prop where
  /-- The alerts of a poll are those that the engine fires. -/
  fired : (s.processBatch batch).2.decisions = decisionsOf (s.engine.evaluate batch s.settings).2
  /-- Every alert, once and in order. -/
  decisions : hs.map Handling.decision = (s.processBatch batch).2.decisions
  allowed : (s.processBatch batch).2.decisions ≠ [] → s.capabilities.canNotify = true
  none_withheld : ∀ key, .noted (.withheld key) ∉ s.pollEntries batch
  first_queued : ∀ h ∈ hs.take s.desk.room, h.handover.isQueued = true
  others_shown : ∀ h ∈ hs.drop s.desk.room, h.handover.isQueued = false
  feedback : ∀ h ∈ hs, h.feedback?.isSome = s.settings.soundEnabled
  /-- Nothing else is called in a poll. -/
  calls : (s.pollEntries batch).filter Event.isCall =
    hs.flatMap (Handling.calls s.desk.isRegistered)
  queue : (s.processBatch batch).1.desk.queued = s.desk.queued ++
    ((s.processBatch batch).2.decisions.take s.desk.room).map Decision.request
  delivered : (s.processBatch batch).2.delivered =
    (s.pollEntries batch).countP Event.isAcceptance + (s.pollEntries batch).countP Event.isShowing

theorem decisions_enabled (s : Session) (batch : Batch)
    (fired : (s.processBatch batch).2.decisions ≠ []) : s.settings.enabled = true := by
  cases enabled : s.settings.enabled with
  | true => rfl
  | false =>
    rw [processBatch_eq, Engine.evaluate_of_disabled _ _ _ enabled] at fired
    exact absurd rfl fired

theorem withheld_notMem_pollNotices (s : Session) (os : List Observation) (key : String) :
    .withheld key ∉ s.pollNotices os := by
  unfold pollNotices Desk.reportNotices
  rw [List.mem_append, List.mem_filterMap]
  rintro (report | ⟨o, -, observed⟩)
  · cases h : s.desk.channel? <;> simp [h] at report
  · unfold Notice.ofObservation? at observed
    cases h : o.transition <;> simp [h] at observed

theorem Permitted.handedOver {s : Session} (permitted : s.Permitted) (batch : Batch) :
    ∃ hs, s.HandedOver batch hs := by
  -- With alerts disabled nothing fires, so whenever something does there is permission.
  have allowed : (s.processBatch batch).2.decisions ≠ [] → s.capabilities.canNotify = true :=
    fun fired => permitted.canNotify (s.decisions_enabled batch fired)
  let os := (s.engine.evaluate batch s.settings).2
  let notes := (s.pollNotices os).map Event.noted
  let desk := s.desk.collected.enterAll notes
  have room : desk.room = s.desk.room := s.desk.collected_room
  have registered : desk.isRegistered = s.desk.isRegistered := s.desk.collected_isRegistered
  obtain ⟨hs, es, sent, decisions, queued, shown, feedback, calls, plain⟩ :=
    Desk.dispatchAll_spec (decisionsOf os) desk s.capabilities s.settings allowed
  have after : s.processBatch batch =
      ({ s with
          desk := (desk.offeredAll ((decisionsOf os).map Decision.request)).enterAll es
          engine := (s.engine.evaluate batch s.settings).1 },
        ⟨decisionsOf os, hs.countP fun h => h.handover.isDelivered⟩) := by
    rw [processBatch_eq]
    simp only [os, desk, notes] at sent ⊢
    rw [sent]
  have world : (s.processBatch batch).1.desk.world = s.desk.world.enterAll (notes ++ es) := by
    rw [after]
    simp only [Desk.enterAll_world, Desk.offeredAll_world, desk, Desk.collected_world,
      World.enterAll_enterAll]
  have entries : s.pollEntries batch = notes ++ es := by
    rw [pollEntries, world, World.since_enterAll]
  refine ⟨hs, ?_, ?_, allowed, ?_, ?_, ?_, feedback, ?_, ?_, ?_⟩
  · rw [after]
  · rw [decisions, after]
  · intro key member
    rw [entries, List.mem_append] at member
    rcases member with noted | sent
    · obtain ⟨n, member, same⟩ := List.mem_map.mp noted
      cases same
      exact s.withheld_notMem_pollNotices os key member
    · exact plain key sent
  · rw [← room]
    exact queued
  · rw [← room]
    exact shown
  · rw [entries, List.filter_append, Event.filter_isCall_noted, List.nil_append, calls, registered]
  · have taken := desk.offeredAll_queued ((decisionsOf os).map Decision.request)
    rw [room, ← List.map_take] at taken
    rw [after]
    refine taken.trans ?_
    rw [← s.desk.collected_queued]
    rfl
  · have counted := countP_calls_delivered desk.isRegistered hs
    rw [← calls, Event.countP_filter_isCall _ (fun _ => rfl),
      Event.countP_filter_isCall _ (fun _ => rfl)] at counted
    rw [entries, List.countP_append, List.countP_append, after]
    have silent (kind : Event → Bool) (h : ∀ n, kind (.noted n) = false) : notes.countP kind = 0 := by
      simp [notes, h]
    rw [silent Event.isAcceptance (fun _ => rfl), silent Event.isShowing (fun _ => rfl)]
    simp only [counted, Nat.zero_add]

/-- In every session that can come about, whatever the surroundings answer and whatever the worker
does in between, no alert of a poll is held back, and each is handed over once: the first ones to
the channel as far as it has room, all the others to the foreground. Tone and vibration follow each
alert exactly when sound is on, and what counts as delivered was accepted or shown. -/
theorem every_fire_is_handed_over (w : World) (scope : String) (steps : List Step) (batch : Batch) :
    ∃ hs, ((start w scope).after steps).HandedOver batch hs :=
  (after_permitted w scope steps).handedOver batch

end Session
end AlertRelay
