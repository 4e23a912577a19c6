import AlertRelay.Proofs.Session.Start
import AlertRelay.Proofs.Session.Step
import AlertRelay.Proofs.Settings.Record
import AlertRelay.Scripted
import Mathlib.Data.List.Induction

/-!
# No alerts without permission

The wish for alerts can come from a stored record and from the user, and is written again whenever
sound is set; permission moves on its own. That the one never stands without the other is kept by
every step, for the settings in use, and as long as nobody else writes to it also for the record.
A record that could not be rewritten at the start is the only way around.
-/
namespace AlertRelay

/-- Settings could not be stored. -/
def Event.isFailedSave : Event → Bool
  | saved _ fault? => fault?.isSome
  | _ => false

namespace Session

/-- Enabled alerts have a granted permission, and there is none without an interface. -/
structure Permitted (s : Session) : Prop where
  enabled_granted : s.settings.enabled = true → s.permission = .granted
  missing_unsupported : s.initial.apiAvailable = false → s.permission = .unsupported

/-- A stored wish for alerts has a granted permission. -/
def StoredPermitted (s : Session) : Prop :=
  s.desk.world.disk.slot.load.settings.enabled = true → s.permission = .granted

theorem Permitted.api {s : Session} (h : s.Permitted) (enabled : s.settings.enabled = true) :
    s.initial.apiAvailable = true := by
  cases api : s.initial.apiAvailable with
  | true => rfl
  | false =>
    have granted := h.enabled_granted enabled
    rw [h.missing_unsupported api] at granted
    cases granted

theorem Permitted.canNotify {s : Session} (h : s.Permitted) (enabled : s.settings.enabled = true) :
    s.capabilities.canNotify = true := by
  simp [capabilities, Capabilities.canNotify, Permission.isGranted, h.api enabled,
    h.enabled_granted enabled]

/-- Neither the desk nor the keys that alerted have a part in it. -/
theorem Permitted.onDesk {s : Session} (h : s.Permitted) (desk : Desk) (engine : Engine) :
    { s with desk := desk, engine := engine }.Permitted :=
  ⟨h.enabled_granted, h.missing_unsupported⟩

theorem Unmoved.permitted {s t : Session} (same : s.Unmoved t) (h : s.Permitted) : t.Permitted := by
  constructor
  · rw [same.settings, same.permission]
    exact h.enabled_granted
  · rw [same.initial, same.permission]
    exact h.missing_unsupported

theorem Unmoved.storedPermitted {s t : Session} (same : s.Unmoved t) (h : s.StoredPermitted) :
    t.StoredPermitted := by
  unfold StoredPermitted
  rw [same.world.disk, same.permission]
  exact h

/-! ## The operations that touch settings or permission -/

/-- A permission that was decided stays as it is. -/
theorem requestPermission_keeps (s : Session) (decided : s.permission ≠ .undecided) :
    s.requestPermission.1.permission = s.permission := by
  obtain ⟨-, -, -, -, moved⟩ := s.requestPermission_spec
  rcases moved with undecided | same
  · exact absurd undecided decided
  · exact same

theorem requestPermission_granted (s : Session) (granted : s.permission = .granted) :
    s.requestPermission.1.permission = .granted := by
  rw [requestPermission_keeps s (by simp [granted]), granted]

theorem requestPermission_permitted (s : Session) (h : s.Permitted) :
    s.requestPermission.1.Permitted := by
  obtain ⟨initial, settings, -, -, -⟩ := s.requestPermission_spec
  constructor
  · rw [settings]
    intro enabled
    exact requestPermission_granted s (h.enabled_granted enabled)
  · rw [initial]
    intro missing
    have unsupported := h.missing_unsupported missing
    rw [requestPermission_keeps s (by simp [unsupported]), unsupported]

theorem requestPermission_storedPermitted (s : Session) (h : s.StoredPermitted) :
    s.requestPermission.1.StoredPermitted := by
  obtain ⟨-, -, world, -, -⟩ := s.requestPermission_spec
  intro stored
  rw [world.disk] at stored
  exact requestPermission_granted s (h stored)

/-- A save, and what is told if it failed. -/
theorem persist_world (s : Session) (t : Settings) :
    (s.persist t).1.desk.world =
      (s.desk.world.save t).1.enterAll (faultEntries (s.desk.world.save t).2) := by
  unfold persist
  rcases s.desk.world.save t with ⟨after, _ | fault⟩ <;> rfl

theorem persist_permitted (s : Session) (t : Settings) (h : s.Permitted)
    (allowed : t.enabled = true → s.permission = .granted) : (s.persist t).1.Permitted := by
  obtain ⟨initial, permission, -, -, settings⟩ := s.persist_spec t
  constructor
  · rw [settings, permission]
    split
    · exact allowed
    · exact h.enabled_granted
  · rw [initial, permission]
    exact h.missing_unsupported

theorem persist_storedPermitted (s : Session) (t : Settings) (h : s.StoredPermitted)
    (allowed : t.enabled = true → s.permission = .granted) : (s.persist t).1.StoredPermitted := by
  obtain ⟨-, permission, disk, -, -⟩ := s.persist_spec t
  intro stored
  rw [disk] at stored
  rw [permission]
  rcases Disk.save_enabled _ _ _ stored with fresh | before
  · exact allowed fresh
  · exact h before

/-- Turning alerts on or off saves settings that the permission allows, or nothing. -/
theorem setEnabled_cases (s : Session) (on : Bool) :
    (on = true ∧ (s.setEnabled on).1 = s.requestPermission.1.note
        (.cannotEnable s.requestPermission.2)) ∨
      (on = true ∧ s.requestPermission.1.permission = .granted ∧ s.setEnabled on =
        s.requestPermission.1.persist { s.requestPermission.1.settings with enabled := true }) ∨
      (on = false ∧ s.setEnabled on = s.persist { s.settings with enabled := false }) := by
  obtain ⟨-, -, -, answer, -⟩ := s.requestPermission_spec
  cases on with
  | false => exact Or.inr (Or.inr ⟨rfl, rfl⟩)
  | true =>
    cases granted : s.requestPermission.2.isGranted with
    | true =>
      have now : s.requestPermission.1.permission = .granted := by
        rw [← answer]
        simpa [Permission.isGranted] using granted
      refine Or.inr (Or.inl ⟨rfl, now, ?_⟩)
      simp only [setEnabled, granted, if_true]
    | false =>
      refine Or.inl ⟨rfl, ?_⟩
      simp only [setEnabled, granted, if_true, Bool.false_eq_true, if_false]

theorem note_unmoved (s : Session) (n : Notice) : s.Unmoved (s.note n) :=
  unmoved_of_world ⟨_, rfl, notices_aside [n]⟩

/-! ## Steps and runs -/

theorem start_permitted (w : World) (scope : String) : (start w scope).Permitted := by
  have initial : (start w scope).initial = w.offer := by rw [start_eq]
  have permission : (start w scope).permission = w.offer.permission := by rw [start_eq]
  constructor
  · rw [permission]
    by_cases kept : w.stored.enabled = true → w.offer.permission = .granted
    · rw [(start_kept w scope kept).1]
      exact kept
    · obtain ⟨enabled, refused⟩ := Classical.not_imp.mp kept
      rw [(start_dropped w scope enabled refused).1]
      intro wish
      cases wish
  · rw [initial, permission]
    intro missing
    simp only [World.offer, Environment.capabilities] at missing ⊢
    rw [missing]
    rfl

/-- A wish that was dropped and rewritten leaves the settings in use as the record. -/
theorem start_dropped_load (w : World) (scope : String) (enabled : w.stored.enabled = true)
    (refused : w.offer.permission ≠ .granted)
    (rewritten : ∀ e ∈ w.since (start w scope).desk.world, e.isFailedSave = false) :
    (start w scope).desk.world.disk.slot.load = .record (start w scope).settings := by
  obtain ⟨-, fault?, told, world⟩ := start_dropped w scope enabled refused
  rw [world, World.since_withDisk] at rewritten
  -- Only a failing save could have left the old record in place.
  have saved : (w.disk.save (start w scope).settings fault?).2 = none := by
    have fine := rewritten (.saved (start w scope).settings
      (w.disk.save (start w scope).settings fault?).2) (by simp)
    simpa [Event.isFailedSave] using fine
  rw [world, World.disk_enterAll]
  exact Disk.load_save (Prod.ext rfl saved)

theorem start_storedPermitted (w : World) (scope : String)
    (rewritten : ∀ e ∈ w.since (start w scope).desk.world, e.isFailedSave = false) :
    (start w scope).StoredPermitted := by
  have permission : (start w scope).permission = w.offer.permission := by rw [start_eq]
  unfold StoredPermitted
  rw [permission]
  by_cases kept : w.stored.enabled = true → w.offer.permission = .granted
  · rw [(start_kept w scope kept).2, World.disk_enterAll]
    exact kept
  · obtain ⟨enabled, refused⟩ := Classical.not_imp.mp kept
    obtain ⟨settings, -⟩ := start_dropped w scope enabled refused
    rw [start_dropped_load w scope enabled refused rewritten, Loaded.settings, settings]
    intro wish
    cases wish

theorem apply_permitted (s : Session) (step : Step) (h : s.Permitted) : (step.apply s).Permitted := by
  cases step with
  | requestPermission => exact requestPermission_permitted s h
  | setEnabled on =>
    rcases setEnabled_cases s on with ⟨rfl, refused⟩ | ⟨rfl, granted, saved⟩ | ⟨rfl, saved⟩
    · rw [Step.apply, refused]
      exact (note_unmoved _ _).permitted (requestPermission_permitted s h)
    · rw [Step.apply, saved]
      exact persist_permitted _ _ (requestPermission_permitted s h) fun _ => granted
    · rw [Step.apply, saved]
      exact persist_permitted _ _ h fun enabled => by cases enabled
  | setSound on => exact persist_permitted s _ h h.enabled_granted
  | registerChannel => exact (registerChannel_unmoved s).permitted h
  | processBatch batch => exact (processBatch_unmoved s batch).permitted h
  | test => exact (test_unmoved s).permitted h
  | workerBegins | workerTakes | workerFinishes | workerGoes | queueEmptied | toneOpens _ =>
    exact (s.behind_unmoved rfl).permitted h
  | overwritten slot => exact h.onDesk _ _

theorem apply_storedPermitted (s : Session) (step : Step) (h : s.Permitted)
    (stored : s.StoredPermitted) (own : step.isForeign = false) :
    (step.apply s).StoredPermitted := by
  cases step with
  | requestPermission => exact requestPermission_storedPermitted s stored
  | setEnabled on =>
    rcases setEnabled_cases s on with ⟨rfl, refused⟩ | ⟨rfl, granted, saved⟩ | ⟨rfl, saved⟩
    · rw [Step.apply, refused]
      exact (note_unmoved _ _).storedPermitted (requestPermission_storedPermitted s stored)
    · rw [Step.apply, saved]
      exact persist_storedPermitted _ _ (requestPermission_storedPermitted s stored) fun _ => granted
    · rw [Step.apply, saved]
      exact persist_storedPermitted _ _ stored fun enabled => by cases enabled
  | setSound on => exact persist_storedPermitted s _ stored h.enabled_granted
  | registerChannel => exact (registerChannel_unmoved s).storedPermitted stored
  | processBatch batch => exact (processBatch_unmoved s batch).storedPermitted stored
  | test => exact (test_unmoved s).storedPermitted stored
  | workerBegins | workerTakes | workerFinishes | workerGoes | queueEmptied | toneOpens _ =>
    exact (s.behind_unmoved rfl).storedPermitted stored
  | overwritten slot => cases own

theorem after_permitted (w : World) (scope : String) (steps : List Step) :
    ((start w scope).after steps).Permitted := by
  induction steps using List.reverseRecOn with
  | nil => exact start_permitted w scope
  | append_singleton steps step ih =>
    rw [after_append]
    exact apply_permitted _ step ih

theorem after_storedPermitted (w : World) (scope : String) (steps : List Step)
    (rewritten : ∀ e ∈ w.since (start w scope).desk.world, e.isFailedSave = false)
    (own : ∀ step ∈ steps, step.isForeign = false) :
    ((start w scope).after steps).StoredPermitted := by
  induction steps using List.reverseRecOn with
  | nil => exact start_storedPermitted w scope rewritten
  | append_singleton steps step ih =>
    rw [after_append]
    have earlier := ih fun step member => own step (by simp [member])
    exact apply_storedPermitted _ step (after_permitted w scope steps) earlier
      (own step (by simp))

/-- Whatever is stored at the start, however the surroundings answer and whichever saves fail or
break off: in every reachable state enabled settings come with a granted permission and an
interface. If the start could rewrite the record where it had to, and nobody else writes to it,
the same holds of what would be loaded. -/
theorem enabled_only_with_permission (w : World) (scope : String) (steps : List Step) :
    (((start w scope).after steps).settings.enabled = true →
      ((start w scope).after steps).permission = .granted ∧
        ((start w scope).after steps).capabilities.apiAvailable = true) ∧
    ((∀ e ∈ w.since (start w scope).desk.world, e.isFailedSave = false) →
      (∀ step ∈ steps, step.isForeign = false) →
      ((start w scope).after steps).desk.world.load.2.enabled = true →
        ((start w scope).after steps).permission = .granted) := by
  have permitted := after_permitted w scope steps
  refine ⟨fun enabled => ⟨permitted.enabled_granted enabled, permitted.api enabled⟩, ?_⟩
  intro rewritten own enabled
  rw [World.load_eq] at enabled
  exact after_storedPermitted w scope steps rewritten own enabled

/-- Surroundings with a stored wish for alerts, an undecided permission and a prompt that grants. -/
def undecidedWorld : World where
  outside := ⟨Scripted.platform ⟨⟨true, true, .undecided⟩, some .granted, false, false, false⟩,
    Scripted.host false, fun _ => none⟩
  disk := ⟨settingsFile, .file (Settings.record ⟨true, true⟩)⟩
  journal := []

/-- The user turns alerts on, is asked for permission, and sets sound. -/
def undecidedSession : Session :=
  (start undecidedWorld "").after [.setEnabled true, .setSound false]

/-- There the wish is dropped at the start and comes back by the prompt. -/
theorem enabled_after_prompt :
    (start undecidedWorld "").settings.enabled = false ∧ undecidedSession.settings.enabled = true ∧
      undecidedSession.desk.world.load.2.enabled = true ∧ undecidedSession.permission = .granted ∧
      undecidedSession.capabilities.apiAvailable = true := by
  have dropped : (start undecidedWorld "").settings.enabled = false := by decide +kernel
  have current : undecidedSession.settings.enabled = true := by decide +kernel
  have stored : undecidedSession.desk.world.load.2.enabled = true := by decide +kernel
  have rewritten : ∀ e ∈ undecidedWorld.since (start undecidedWorld "").desk.world,
      e.isFailedSave = false := by decide +kernel
  obtain ⟨inUse, onDisk⟩ :=
    enabled_only_with_permission undecidedWorld "" [.setEnabled true, .setSound false]
  rw [← undecidedSession] at inUse onDisk
  exact ⟨dropped, current, stored, onDisk rewritten (by decide) stored, (inUse current).2⟩

end Session
end AlertRelay
