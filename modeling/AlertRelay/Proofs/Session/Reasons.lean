import AlertRelay.Proofs.Session.Change

/-!
# Why alerts were not enabled

Turning alerts on can fail for want of permission or because the settings could not be saved, and the
operator is told one reason. For want of permission that is what stands in the way. A save that failed
is told as such, and after that a missing permission is named as the reason all the same, although
permission is granted. No other reason is ever wrong.
-/
namespace AlertRelay

/-- The reason that is told for alerts which were not enabled, `none` being a missing permission. -/
def Event.reason? : Event → Option (Option Obstacle)
  | noted (.alertsNotEnabled o?) => some o?
  | _ => none

def reasonsIn (es : List Event) : List (Option Obstacle) := es.filterMap Event.reason?

theorem reasonsIn_append (es fs : List Event) : reasonsIn (es ++ fs) = reasonsIn es ++ reasonsIn fs :=
  List.filterMap_append

/-- Nothing stands in the way of a granted permission. -/
theorem Capabilities.obstacle?_of_granted {c : Capabilities} (granted : c.permission = .granted) :
    c.obstacle? = none := by
  simp [obstacle?, granted, Permission.isGranted]

namespace Session

/-- Asking for permission saves nothing and gives no reason. -/
theorem requestPermission_quiet (s : Session) :
    ∃ es, savesIn es = [] ∧ reasonsIn es = [] ∧
      s.requestPermission.1.desk.world = s.desk.world.enterAll es := by
  rw [requestPermission_eq]
  split
  · refine ⟨promptEntries s.desk.world.promptAnswer, ?_, ?_, rfl⟩
    all_goals cases s.desk.world.promptAnswer <;> rfl
  · exact ⟨[], rfl, rfl, rfl⟩

/-- Without permission it is what stands in the way. -/
theorem handle_enable_of_refused {s : Session}
    (refused : s.requestPermission.1.permission ≠ .granted) :
    s.handle .enable = (s.requestPermission.1.note (.cannotEnable s.requestPermission.1.permission)).note
      (.alertsNotEnabled s.requestPermission.1.obstacle?) := by
  rcases s.change_cases (.alerts true) with ⟨-, -, changed⟩ | ⟨granted, -⟩
  · have set : s.setEnabled true = _ := changed
    rw [handle, set]
    rfl
  · exact absurd (granted rfl) refused

/-- What is entered once the settings were saved, or were not. -/
def savedEntries (t : Settings) (fault? : Option IoFault) : List Event :=
  .saved t fault? :: faultEntries fault? ++
    [.noted (if fault?.isNone then .alertsEnabled else .alertsNotEnabled none)]

/-- With permission the answer depends on the save alone. -/
theorem handle_enable_of_granted {s : Session}
    (granted : s.requestPermission.1.permission = .granted) :
    (s.handle .enable).permission = .granted ∧
      ∃ disk fault?, (s.handle .enable).desk.world =
        { s.requestPermission.1.desk.world with disk := disk }.enterAll
          (savedEntries { s.settings with enabled := true } fault?) := by
  rcases s.change_cases (.alerts true) with ⟨-, refused, -⟩ | ⟨-, changed⟩
  · exact absurd granted refused
  have set : s.setEnabled true =
      s.requestPermission.1.persist { s.settings with enabled := true } := changed
  have free : s.requestPermission.1.capabilities.obstacle? = none :=
    Capabilities.obstacle?_of_granted granted
  rw [handle, set, persist, World.save_eq]
  rcases s.requestPermission.1.desk.world.saveOutcome { s.settings with enabled := true } with
    ⟨disk, _ | fault⟩
  · exact ⟨granted, disk, none, rfl⟩
  · have told : savedEntries { s.settings with enabled := true } (some fault) =
        [.saved { s.settings with enabled := true } (some fault), .noted (.settingsNotSaved fault),
          .noted (.alertsNotEnabled s.requestPermission.1.capabilities.obstacle?)] := by
      rw [free]
      rfl
    refine ⟨granted, disk, some fault, ?_⟩
    rw [told]
    rfl

theorem savesIn_savedEntries (t : Settings) (fault? : Option IoFault) :
    savesIn (savedEntries t fault?) = [(t, fault?)] := by
  cases fault? <;> rfl

theorem reasonsIn_savedEntries (t : Settings) (fault? : Option IoFault) :
    reasonsIn (savedEntries t fault?) = if fault?.isNone then [] else [none] := by
  cases fault? <;> rfl

/-- What is saved and what reason is given when alerts are to be enabled. -/
theorem handle_enable_outcome (s : Session) :
    let after := s.handle .enable
    let entries := s.desk.world.since after.desk.world
    after.permission ≠ .granted ∧ savesIn entries = [] ∧ reasonsIn entries = [after.obstacle?] ∨
      after.permission = .granted ∧ ∃ fault?,
        savesIn entries = [({ s.settings with enabled := true }, fault?)] ∧
        reasonsIn entries = if fault?.isNone then [] else [none] := by
  intro after entries
  obtain ⟨es, unsaved, silent, asked⟩ := s.requestPermission_quiet
  by_cases granted : s.requestPermission.1.permission = .granted
  · obtain ⟨still, disk, fault?, world⟩ := handle_enable_of_granted granted
    have entered : entries = es ++ savedEntries { s.settings with enabled := true } fault? := by
      simp only [entries, after, world, asked]
      rw [World.enterAll_withDisk, World.enterAll_enterAll, World.since_withDisk]
    refine .inr ⟨still, fault?, ?_⟩
    rw [entered, savesIn_append, reasonsIn_append, unsaved, silent, savesIn_savedEntries,
      reasonsIn_savedEntries]
    exact ⟨rfl, rfl⟩
  · have refused := handle_enable_of_refused granted
    have entered : entries = es ++ [.noted (.cannotEnable s.requestPermission.1.permission),
        .noted (.alertsNotEnabled s.requestPermission.1.obstacle?)] := by
      simp only [entries, after, refused, note, Desk.note_eq, Desk.enterAll_world, asked,
        World.enterAll_enterAll, World.since_enterAll, List.append_assoc]
      rfl
    rw [entered, savesIn_append, reasonsIn_append, unsaved, silent, show after = _ from refused]
    exact .inl ⟨granted, rfl, rfl⟩

/-- Without permission there is one reason for not enabling alerts, what stands in the way, and nothing
was saved. With permission there was one save, and only if that failed there is a reason, a missing
permission. So an obstacle is named for a reason that is one, and the permission for a save that failed
as well: every reason goes with a permission that is not granted exactly if no save failed. -/
theorem reasons_against_permission (s : Session) :
    let after := s.handle .enable
    let entries := s.desk.world.since after.desk.world
    (after.permission ≠ .granted →
      savesIn entries = [] ∧ reasonsIn entries = [after.obstacle?]) ∧
    (after.permission = .granted → ∃ fault?,
      savesIn entries = [({ s.settings with enabled := true }, fault?)] ∧
      reasonsIn entries = if fault?.isNone then [] else [none]) ∧
    (∀ o, some o ∈ reasonsIn entries → after.permission ≠ .granted ∧ after.obstacle? = some o) ∧
    ((∀ reason ∈ reasonsIn entries, after.permission ≠ .granted) ↔
      ∀ saved ∈ savesIn entries, saved.2 = none) := by
  intro after entries
  rcases s.handle_enable_outcome with ⟨refused, saves, reasons⟩ | ⟨granted, fault?, saves, reasons⟩
  · rw [saves, reasons]
    refine ⟨fun _ => ⟨rfl, rfl⟩, fun granted => absurd granted refused, fun o member => ?_, ?_⟩
    · exact ⟨refused, (List.mem_singleton.mp member).symm⟩
    · exact iff_of_true (fun _ _ => refused) (List.forall_mem_nil _)
  · rw [saves, reasons]
    refine ⟨fun refused => absurd granted refused, fun _ => ⟨fault?, rfl, rfl⟩, fun o member => ?_, ?_⟩
    · split at member <;> simp at member
    · cases fault? <;> simp [after, granted]

/-- Permission is granted, and a directory stands where the settings should be saved. -/
def folderWorld : World where
  outside := ⟨Scripted.platform ⟨⟨true, true, .granted⟩, none, false, false, false⟩,
    Scripted.host false, fun _ => none⟩
  disk := ⟨settingsFile, .folder⟩
  journal := []

def folderSession : Session := start folderWorld "http://localhost/"

/-- There alerts cannot be enabled because the save fails, and the permission is named for it. -/
theorem failed_save_told_as_missing_permission :
    (folderSession.handle .enable).permission = .granted ∧
      savesIn (folderSession.desk.world.since (folderSession.handle .enable).desk.world) =
        [(⟨true, true⟩, some .isADirectory)] ∧
      reasonsIn (folderSession.desk.world.since (folderSession.handle .enable).desk.world) = [none] ∧
      (Notice.alertsNotEnabled none).text = "Alerts not enabled: permission not granted" ∧
      ¬ ∀ reason ∈
          reasonsIn (folderSession.desk.world.since (folderSession.handle .enable).desk.world),
        (folderSession.handle .enable).permission ≠ .granted := by
  decide +kernel

end Session
end AlertRelay
