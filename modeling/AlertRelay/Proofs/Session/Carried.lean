import AlertRelay.Program
import AlertRelay.Proofs.Desk.Attempts
import AlertRelay.Proofs.Session.Permission

/-!
# What a session does for a key outside polls

Setting up, asking for permission, changing settings and reporting neither try nor queue an alert,
and neither do the commands of the feed. What was granted stays granted throughout.
-/
namespace AlertRelay

open Desk (Carries carries_enterAll carries_noteAll)

namespace Session

variable (key : String)

theorem carries_withDisk (d : Desk) (disk : Disk) :
    Carries key d { d with world.disk := disk } [] [] :=
  ⟨⟨[], (List.append_nil _).symm, rfl, rfl⟩, rfl, (List.append_nil _).symm⟩

theorem carries_save (d : Desk) (s : Settings) :
    Carries key d { d with world := (d.world.save s).1 } [] [] := by
  have stored := carries_withDisk key d (d.world.saveOutcome s).1
  have told : Untried key [.saved s (d.world.saveOutcome s).2] := ⟨rfl, rfl⟩
  exact stored.trans (carries_enterAll _ told)

theorem carries_requestPermission (s : Session) :
    Carries key s.desk s.requestPermission.1.desk [] [] := by
  rw [requestPermission_eq]
  split
  · have quiet : Untried key (promptEntries s.desk.world.promptAnswer) := by
      cases s.desk.world.promptAnswer <;> exact ⟨rfl, rfl⟩
    exact carries_enterAll s.desk quiet
  · exact carries_noteAll key s.desk []

theorem carries_persist (s : Session) (t : Settings) :
    Carries key s.desk (s.persist t).1.desk [] [] := by
  have saved := carries_save key s.desk t
  unfold persist
  simp only
  split
  · exact saved
  next fault _ => exact saved.trans (carries_noteAll key _ [.settingsNotSaved fault])

theorem carries_setEnabled (s : Session) (on : Bool) :
    Carries key s.desk (s.setEnabled on).1.desk [] [] := by
  have asked := carries_requestPermission key s
  rcases setEnabled_cases s on with ⟨-, refused⟩ | ⟨-, -, saved⟩ | ⟨-, saved⟩
  · rw [refused]
    exact asked.trans (carries_noteAll key _ [.cannotEnable s.requestPermission.2])
  · rw [saved]
    exact asked.trans (carries_persist key _ _)
  · rw [saved]
    exact carries_persist key s _

/-- Only a poll is anything to a key. -/
theorem carries_handle (s : Session) (m : Feed.Message) (other : ∀ batch, m ≠ .entries batch) :
    Carries key s.desk (s.handle m).desk [] [] := by
  obtain ⟨ns, handled⟩ := s.handle_eq m
  have operated : Carries key s.desk (s.operated m).desk [] [] := by
    cases m with
    | entries batch => exact absurd rfl (other batch)
    | enable => exact carries_setEnabled key s true
    | disable => exact carries_setEnabled key s false
    | sound on => exact carries_persist key s _
    | test => exact Desk.carries_test key s.desk s.capabilities
    | status => exact carries_noteAll key s.desk []
  rw [handled]
  exact operated.trans (carries_noteAll key _ ns)

theorem handle_permitted (s : Session) (m : Feed.Message) (h : s.Permitted) :
    (s.handle m).Permitted := by
  obtain ⟨ns, handled⟩ := s.handle_eq m
  have operated : (s.operated m).Permitted := by
    unfold Session.operated
    cases operation? m with
    | none => exact h
    | some step => exact apply_permitted s step h
  rw [handled]
  exact operated.onDesk _ _

theorem carries_reconcile (w : World) (c : Capabilities) (stored : Settings) :
    Carries key (.new w) (.new (reconcile w c stored).1) [] [] := by
  rw [reconcile_eq]
  split
  · let told := w.enterAll [.noted (.alertsTurnedOff c.permission)]
    let saved := told.save { stored with enabled := false }
    have quiet : Untried key (faultEntries saved.2) := by cases saved.2 <;> exact ⟨rfl, rfl⟩
    have before : Carries key (.new w) (.new told) [] [] :=
      carries_noteAll key (.new w) [.alertsTurnedOff c.permission]
    exact (before.trans (carries_save key (.new told) _)).trans (carries_enterAll (.new saved.1) quiet)
  · exact carries_noteAll key (.new w) []

theorem carries_start (w : World) (scope : String) :
    Carries key (.new w) (start w scope).desk [] [] := by
  have quiet : Untried key (openingEntries w) := by
    unfold openingEntries World.loadEntries
    split <;> exact ⟨rfl, rfl⟩
  rw [start_eq]
  exact (carries_enterAll (.new w) quiet).trans (carries_reconcile key _ _ _)

/-- A channel that was just installed is empty. -/
theorem carries_register (w : World) (c : Capabilities) (scope : String) :
    Carries key (.new w) ((Desk.new w).register c scope).1 [] [] := by
  have quiet : Untried key ((Desk.new w).registrationEntries c scope) := by
    unfold Desk.registrationEntries
    cases (Desk.new w).world.installation scope <;> cases c.apiAvailable <;>
      cases c.secureContext <;> exact ⟨rfl, rfl⟩
  rw [Desk.register_eq c scope rfl]
  let after : Desk := ⟨w, true, ((Desk.new w).installed? c scope).or none⟩
  have empty : after.waitingFor key = [] := by
    unfold after Desk.waitingFor Desk.queued Desk.installed?
    split
    · cases (Desk.new w).world.installation scope <;> rfl
    · rfl
  have free : after.client? = none := by
    unfold after Desk.client?
    rw [Option.or_none]
    exact (Desk.new w).installed?_client? c scope
  have installed : Carries key (.new w) after [] [] :=
    ⟨⟨[], (List.append_nil _).symm, rfl, rfl⟩, free, by rw [empty]; rfl⟩
  exact installed.trans (carries_enterAll after quiet)

theorem setUp_eq (w : World) (scope : String) :
    ∃ ns, setUp w scope = (start w scope).registerChannel.1.noteAll ns := by
  unfold setUp
  simp only
  split
  next o _ => exact ⟨[.obstacleAtStart o], rfl⟩
  next => exact ⟨[], rfl⟩

theorem carries_setUp (w : World) (scope : String) :
    Carries key (.new w) (setUp w scope).desk [] [] := by
  let s := start w scope
  have fresh : s.desk = .new s.desk.world := by simp only [s, start_eq]; rfl
  have registered := carries_register key s.desk.world s.capabilities s.scope
  rw [← fresh] at registered
  obtain ⟨ns, same⟩ := setUp_eq w scope
  rw [same]
  exact ((carries_start key w scope).trans registered).trans (carries_noteAll key _ ns)

theorem setUp_permitted (w : World) (scope : String) : (setUp w scope).Permitted := by
  have registered := (start w scope).registerChannel_unmoved.permitted (start_permitted w scope)
  obtain ⟨ns, same⟩ := setUp_eq w scope
  rw [same]
  exact registered.onDesk _ _

end Session

end AlertRelay
