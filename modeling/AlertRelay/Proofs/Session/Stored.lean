import AlertRelay.Proofs.Desk.Worker
import AlertRelay.Proofs.Session.Permission

/-!
# The settings in use are the stored ones

A session keeps its settings twice, in hand and in a file. Both are written by the same operation,
the one in hand only once the file took them, and a start takes what it read, or drops the wish for
alerts from both. So as long as a failing save spares the file, nobody else writes to it, and the
record could be rewritten at the start, what would be loaded is what is in use, and a session that
begins on the same file begins with the same settings, less a wish that its permission does not bear
out.
-/
namespace AlertRelay

/-- A save that fails leaves the file as it was. -/
def Surroundings.SparesFile (o : Surroundings) : Prop :=
  ∀ n fault, o.saveFault n = some fault → fault.written? = none

/-- A save that spares the file leaves what it was to store, or everything as it was. -/
theorem Disk.save_cases (d : Disk) (s : Settings) {fault? : Option SaveFault}
    (spares : ∀ fault, fault? = some fault → fault.written? = none) :
    ((d.save s fault?).2 = none ∧ (d.save s fault?).1.slot.load = .record s) ∨
      ((d.save s fault?).2.isSome ∧ (d.save s fault?).1 = d) := by
  unfold save
  split
  · exact Or.inr ⟨rfl, rfl⟩
  · exact Or.inr ⟨rfl, rfl⟩
  next fault n _ => cases spares ⟨fault, some n⟩ rfl
  · exact Or.inl ⟨rfl, load_record s⟩

namespace Session

/-- What is in use is what is stored, and failing saves spare the file. -/
structure InStep (s : Session) : Prop where
  stored : s.desk.world.stored = s.settings
  spares : s.desk.world.outside.SparesFile

theorem Unmoved.inStep {s t : Session} (same : s.Unmoved t) (h : s.InStep) : t.InStep := by
  constructor
  · rw [World.stored, same.world.disk, same.settings]
    exact h.stored
  · rw [same.world.outside]
    exact h.spares

theorem requestPermission_inStep (s : Session) (h : s.InStep) : s.requestPermission.1.InStep := by
  obtain ⟨-, settings, world, -, -⟩ := s.requestPermission_spec
  constructor
  · rw [World.stored, world.disk, settings]
    exact h.stored
  · rw [world.outside]
    exact h.spares

theorem persist_outside (s : Session) (t : Settings) :
    (s.persist t).1.desk.world.outside = s.desk.world.outside := by
  rw [persist_world, World.save_eq, World.outside_enterAll, World.outside_enterAll]

/-- Either both copies take the new settings, or neither changes. -/
theorem persist_inStep (s : Session) (t : Settings) (h : s.InStep) : (s.persist t).1.InStep := by
  obtain ⟨-, -, disk, answer, settings⟩ := s.persist_spec t
  constructor
  · have spares (fault : SaveFault) := h.spares (s.desk.world.count Event.isSave) fault
    rw [World.stored, disk, settings, answer, World.saveOutcome]
    rcases s.desk.world.disk.save_cases t spares with ⟨saved, read⟩ | ⟨failed, same⟩
    · simp [saved, read, Loaded.settings]
    · rw [same, Option.isNone_eq_false_iff.mpr failed]
      exact h.stored
  · rw [persist_outside]
    exact h.spares

theorem start_inStep (w : World) (scope : String) (spares : w.outside.SparesFile)
    (rewritten : ∀ e ∈ w.since (start w scope).desk.world, e.isFailedSave = false) :
    (start w scope).InStep := by
  by_cases kept : w.stored.enabled = true → w.offer.permission = .granted
  · obtain ⟨settings, world⟩ := start_kept w scope kept
    constructor
    · rw [settings, world, World.stored, World.disk_enterAll]
      rfl
    · rw [world, World.outside_enterAll]
      exact spares
  · obtain ⟨enabled, refused⟩ := Classical.not_imp.mp kept
    obtain ⟨-, fault?, told, world⟩ := start_dropped w scope enabled refused
    constructor
    · rw [World.stored, start_dropped_load w scope enabled refused rewritten]
      rfl
    · rw [world, World.outside_enterAll]
      exact spares

theorem apply_inStep (s : Session) (step : Step) (h : s.InStep) (own : step.isForeign = false) :
    (step.apply s).InStep := by
  cases step with
  | requestPermission => exact requestPermission_inStep s h
  | setEnabled on =>
    rcases setEnabled_cases s on with ⟨rfl, refused⟩ | ⟨rfl, -, saved⟩ | ⟨rfl, saved⟩
    · rw [Step.apply, refused]
      exact (note_unmoved _ _).inStep (requestPermission_inStep s h)
    · rw [Step.apply, saved]
      exact persist_inStep _ _ (requestPermission_inStep s h)
    · rw [Step.apply, saved]
      exact persist_inStep _ _ h
  | setSound on => exact persist_inStep s _ h
  | registerChannel => exact (registerChannel_unmoved s).inStep h
  | processBatch batch => exact (processBatch_unmoved s batch).inStep h
  | test => exact (test_unmoved s).inStep h
  | workerBegins | workerTakes | workerFinishes | workerGoes | queueEmptied | toneOpens _ =>
    exact (s.behind_unmoved rfl).inStep h
  | overwritten slot => cases own

/-- A session that nobody interferes with: it began where a needed rewriting of the record succeeded,
and only its own operations and its worker's moves followed. A session may begin in any world, also
where another one left off. -/
inductive Undisturbed : Session → Prop
  | start {w : World} {scope : String} (spares : w.outside.SparesFile)
      (rewritten : ∀ e ∈ w.since (start w scope).desk.world, e.isFailedSave = false) :
      Undisturbed (start w scope)
  | step {s : Session} (before : Undisturbed s) (step : Step) (own : step.isForeign = false) :
      Undisturbed (step.apply s)

theorem Undisturbed.inStep {s : Session} (h : s.Undisturbed) : s.InStep := by
  induction h with
  | start spares rewritten => exact start_inStep _ _ spares rewritten
  | step _ step own ih => exact apply_inStep _ step ih own

/-- A start takes what is stored, less a wish for alerts without permission. -/
theorem start_settings (w : World) (scope : String) :
    (start w scope).settings =
      ⟨w.stored.enabled && w.offer.permission.isGranted, w.stored.soundEnabled⟩ := by
  by_cases kept : w.stored.enabled = true → w.offer.permission = .granted
  · rw [(start_kept w scope kept).1]
    cases enabled : w.stored.enabled with
    | false => rw [Bool.false_and, ← enabled]
    | true => rw [kept enabled, Bool.true_and, Permission.isGranted, beq_self_eq_true, ← enabled]
  · obtain ⟨enabled, refused⟩ := Classical.not_imp.mp kept
    rw [(start_dropped w scope enabled refused).1, enabled, Bool.true_and, Permission.isGranted,
      beq_false_of_ne refused]

/-- Whatever was found at the first start and whichever saves fail: what would be loaded is what is
in use. A session that begins anew in any surroundings, on the same file, keeps the sound setting,
and keeps alerts on exactly if they were and permission is granted there; so does a restart. -/
theorem settings_in_use_are_stored {s : Session} (undisturbed : s.Undisturbed) :
    s.desk.world.load.2 = s.settings ∧
    (∀ (w : World) (scope : String), w.disk.slot = s.desk.world.disk.slot →
      (start w scope).settings.soundEnabled = s.settings.soundEnabled ∧
      ((start w scope).settings.enabled = true ↔
        s.settings.enabled = true ∧ (start w scope).permission = .granted)) ∧
    (s.restart.settings.soundEnabled = s.settings.soundEnabled ∧
      (s.restart.settings.enabled = true ↔
        s.settings.enabled = true ∧ s.restart.permission = .granted)) := by
  have stored := undisturbed.inStep.stored
  have again (w : World) (scope : String) (same : w.disk.slot = s.desk.world.disk.slot) :
      (start w scope).settings.soundEnabled = s.settings.soundEnabled ∧
      ((start w scope).settings.enabled = true ↔
        s.settings.enabled = true ∧ (start w scope).permission = .granted) := by
    have read : w.stored = s.settings := by rw [World.stored, same, ← stored, World.stored]
    have permission : (start w scope).permission = w.offer.permission := by rw [start_eq]
    rw [start_settings, read, permission]
    simp [Permission.isGranted]
  refine ⟨?_, again, again _ _ ?_⟩
  · rw [World.load_eq]
    exact stored
  · rw [s.desk.windUp_aside.disk]

/-- Surroundings with a prompt that grants and a second save that fails. -/
def failingOnce : Surroundings where
  platform := Scripted.platform ⟨⟨true, true, .undecided⟩, some .granted, false, false, false⟩
  host := Scripted.host false
  saveFault := fun n => if n = 1 then some ⟨.permissionDenied, none⟩ else none

/-- The file holds no text at first. -/
def damagedWorld : World := ⟨failingOnce, ⟨settingsFile, .file [0xFF]⟩, []⟩

/-- Alerts are turned on; turning sound off fails; turning it off again succeeds. -/
def mendedSession : Session :=
  (start damagedWorld "").after [.setEnabled true, .setSound false, .setSound false]

/-- There the restarted session has sound off, and alerts off until permission is asked for again. -/
theorem settings_after_failed_save :
    mendedSession.desk.world.load.2 = ⟨true, false⟩ ∧
      mendedSession.restart.settings.soundEnabled = false ∧
      ¬ mendedSession.restart.settings.enabled = true := by
  have spares : damagedWorld.outside.SparesFile := by
    intro n fault failed
    simp only [damagedWorld, failingOnce] at failed
    split at failed
    · cases failed
      rfl
    · cases failed
  have undisturbed : mendedSession.Undisturbed :=
    .step (.step (.step (.start spares (by decide +kernel)) (.setEnabled true) rfl)
      (.setSound false) rfl) (.setSound false) rfl
  have current : mendedSession.settings = ⟨true, false⟩ := by decide +kernel
  have undecided : mendedSession.restart.permission = .undecided := by decide +kernel
  obtain ⟨stored, -, sound, enabled⟩ := settings_in_use_are_stored undisturbed
  rw [current] at stored sound enabled
  rw [undecided] at enabled
  exact ⟨stored, sound, by simp [enabled]⟩

end Session
end AlertRelay
