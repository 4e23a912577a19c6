import AlertRelay.Proofs.Journal
import AlertRelay.Session

/-!
# How a session starts

The surroundings are asked once and the record is read once. The settings in use are the stored
ones, less a wish for alerts that permission does not bear out; only then is the record rewritten.
-/
namespace AlertRelay

/-- What the surroundings offer. -/
def World.offer (w : World) : Capabilities := w.outside.platform.environment.capabilities

/-- What is stored. -/
def World.stored (w : World) : Settings := w.disk.slot.load.settings

def World.loadEntries (w : World) : List Event :=
  match w.disk.slot.load with
  | .unreadable => [.noted (.settingsUnreadable w.disk.path)]
  | _ => []

theorem World.probe_eq (w : World) :
    w.probe = (w.enterAll [.surveyed w.outside.platform.environment, .noted (.capabilities w.offer)],
      w.offer) := rfl

theorem World.load_eq (w : World) : w.load = (w.enterAll w.loadEntries, w.stored) := by
  unfold load loadEntries stored
  cases w.disk.slot.load <;> rfl

namespace Session

/-- The journal of a start up to the point where the record was read. -/
def openingEntries (w : World) : List Event :=
  [.surveyed w.outside.platform.environment, .noted (.capabilities w.offer)] ++ w.loadEntries

theorem start_eq (w : World) (scope : String) :
    start w scope =
      { desk := .new (reconcile (w.enterAll (openingEntries w)) w.offer w.stored).1, scope := scope,
        initial := w.offer, permission := w.offer.permission,
        settings := (reconcile (w.enterAll (openingEntries w)) w.offer w.stored).2,
        engine := .new } := by
  have same : (w.enterAll [.surveyed w.outside.platform.environment,
      .noted (.capabilities w.offer)]).loadEntries = w.loadEntries := rfl
  simp only [start, World.probe_eq, World.load_eq, World.enterAll_enterAll, same, openingEntries]
  rfl

/-- What is told of a save that failed. -/
def faultEntries (fault? : Option IoFault) : List Event :=
  (fault?.map fun fault => .noted (.settingsNotSaved fault)).toList

theorem reconcile_eq (w : World) (c : Capabilities) (stored : Settings) :
    reconcile w c stored =
      if stored.enabled && !c.permission.isGranted then
        let saved := (w.enterAll [.noted (.alertsTurnedOff c.permission)]).save
          { stored with enabled := false }
        (saved.1.enterAll (faultEntries saved.2), { stored with enabled := false })
      else (w, stored) := by
  unfold reconcile
  split
  · simp only [World.note_eq]
    split
    next after same => rw [same]; rfl
    next after fault same => rw [same]; rfl
  · rfl

theorem reconcile_kept (w : World) (c : Capabilities) (stored : Settings)
    (kept : stored.enabled = true → c.permission = .granted) : reconcile w c stored = (w, stored) := by
  cases enabled : stored.enabled with
  | false => simp [reconcile, enabled]
  | true => simp [reconcile, enabled, kept enabled, Permission.isGranted]

theorem reconcile_dropped (w : World) (c : Capabilities) (stored : Settings)
    (enabled : stored.enabled = true) (refused : c.permission ≠ .granted) :
    ∃ fault? told, reconcile w c stored =
      ({ w with disk := (w.disk.save { stored with enabled := false } fault?).1 }.enterAll
        (.noted (.alertsTurnedOff c.permission) ::
          .saved { stored with enabled := false }
            (w.disk.save { stored with enabled := false } fault?).2 :: told),
        { stored with enabled := false }) := by
  have drop : (stored.enabled && !c.permission.isGranted) = true := by
    simp [enabled, Permission.isGranted, refused]
  let noted := w.note (.alertsTurnedOff c.permission)
  refine ⟨w.outside.saveFault (noted.count Event.isSave), ?_⟩
  simp only [reconcile, drop, if_true, World.save_eq]
  have outcome : noted.saveOutcome { stored with enabled := false } =
      w.disk.save { stored with enabled := false }
        (w.outside.saveFault (noted.count Event.isSave)) := rfl
  rw [outcome]
  cases (w.disk.save { stored with enabled := false }
    (w.outside.saveFault (noted.count Event.isSave))).2 with
  | none => exact ⟨[], rfl⟩
  | some fault => exact ⟨[.noted (.settingsNotSaved fault)], rfl⟩

/-- A record that permission bears out is used as it is. -/
theorem start_kept (w : World) (scope : String)
    (kept : w.stored.enabled = true → w.offer.permission = .granted) :
    (start w scope).settings = w.stored ∧
      (start w scope).desk.world = w.enterAll (openingEntries w) := by
  rw [start_eq, reconcile_kept _ _ _ kept]
  exact ⟨rfl, rfl⟩

/-- A wish for alerts that permission does not bear out is dropped, and the rest is saved. -/
theorem start_dropped (w : World) (scope : String) (enabled : w.stored.enabled = true)
    (refused : w.offer.permission ≠ .granted) :
    (start w scope).settings = { w.stored with enabled := false } ∧
      ∃ fault? told, (start w scope).desk.world =
        { w with disk := (w.disk.save (start w scope).settings fault?).1 }.enterAll
          (openingEntries w ++ Event.noted (.alertsTurnedOff w.offer.permission) ::
            Event.saved (start w scope).settings (w.disk.save (start w scope).settings fault?).2 ::
              told) := by
  obtain ⟨fault?, told, dropped⟩ :=
    reconcile_dropped (w.enterAll (openingEntries w)) w.offer w.stored enabled refused
  rw [World.disk_enterAll, World.enterAll_withDisk, World.enterAll_enterAll] at dropped
  rw [start_eq, dropped]
  exact ⟨rfl, fault?, told, rfl⟩

end Session
end AlertRelay
