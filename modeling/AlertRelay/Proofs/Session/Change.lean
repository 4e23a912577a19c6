import AlertRelay.Proofs.Session.Licence
import AlertRelay.Proofs.Session.Stored

/-!
# Settings change as a whole or not at all

A change can be refused by the permission, by the answer to a prompt or its failure, and by the save.
Whichever it is, the settings in use and the file stay what they were; else both take the new value of
the one field. Permission may have been decided on the way, and is not put back.
-/
namespace AlertRelay

/-- What was to be saved, and what came of it. -/
def Event.save? : Event → Option (Settings × Option IoFault)
  | saved s fault? => some (s, fault?)
  | _ => none

def savesIn (es : List Event) : List (Settings × Option IoFault) := es.filterMap Event.save?

theorem savesIn_append (es fs : List Event) : savesIn (es ++ fs) = savesIn es ++ savesIn fs :=
  List.filterMap_append

/-- What the next save comes to is left alone by whatever is no save. -/
theorem World.save_enterAll {es : List Event} (quiet : savesIn es = []) (w : World) (t : Settings) :
    ((w.enterAll es).save t).2 = (w.save t).2 := by
  have none_saved : es.countP Event.isSave = 0 := by
    rw [List.countP_eq_zero]
    intro e member
    have other := List.filterMap_eq_nil_iff.mp quiet e member
    cases e <;> simp_all [Event.save?, Event.isSave]
  rw [save_eq, save_eq, saveOutcome, saveOutcome, outside_enterAll, disk_enterAll, count_enterAll,
    none_saved, Nat.add_zero]

namespace Session

/-- A save takes place in the file and in use, or in neither. -/
theorem persist_cases (s : Session) (t : Settings) (spares : s.desk.world.outside.SparesFile) :
    (∃ disk, disk.slot.load = .record t ∧ (s.desk.world.save t).2 = none ∧ s.persist t =
        ({ s with
            desk := { s.desk with
              world := { s.desk.world with disk := disk }.enterAll [.saved t none] }
            settings := t }, true)) ∨
      ∃ fault, (s.desk.world.save t).2 = some fault ∧ s.persist t =
        ({ s with
            desk := s.desk.enterAll [.saved t (some fault), .noted (.settingsNotSaved fault)] },
          false) := by
  have taken := s.desk.world.disk.save_cases t (spares (s.desk.world.count Event.isSave))
  rw [← World.saveOutcome] at taken
  unfold persist
  simp only [World.save_eq]
  rcases taken with ⟨fine, stored⟩ | ⟨failed, same⟩
  · rw [fine]
    exact .inl ⟨_, stored, rfl, rfl⟩
  · obtain ⟨fault, outcome⟩ := Option.isSome_iff_exists.mp failed
    rw [outcome, same]
    exact .inr ⟨fault, rfl, rfl⟩

/-- A change of one of the settings. -/
inductive Change where
  | alerts (on : Bool)
  | sound (on : Bool)
  deriving DecidableEq, Repr

namespace Change

/-- The settings with the one field changed. -/
def onto (t : Settings) : Change → Settings
  | alerts on => { t with enabled := on }
  | sound on => { t with soundEnabled := on }

/-- Only turning alerts on needs a permission. -/
def asks : Change → Bool
  | alerts on => on
  | sound _ => false

theorem eq_of_asks {c : Change} (asks : c.asks = true) : c = alerts true := by
  cases c with
  | alerts on => rw [show on = true from asks]
  | sound on => cases asks

end Change

def change (s : Session) : Change → Session × Bool
  | .alerts on => s.setEnabled on
  | .sound on => s.setSound on

/-- The session once permission was asked for, if the change needs one. -/
def asked (s : Session) (c : Change) : Session := if c.asks then s.requestPermission.1 else s

/-- Without the permission it needs a change is refused; else it is as good as the save. -/
theorem change_cases (s : Session) (c : Change) :
    (c.asks = true ∧ (s.asked c).permission ≠ .granted ∧
        s.change c = ((s.asked c).note (.cannotEnable (s.asked c).permission), false)) ∨
      ((c.asks = true → (s.asked c).permission = .granted) ∧
        s.change c = (s.asked c).persist (c.onto s.settings)) := by
  obtain ⟨-, settings, -, answer, -⟩ := s.requestPermission_spec
  cases c with
  | sound on => exact .inr ⟨by simp [Change.asks], rfl⟩
  | alerts on =>
    cases on with
    | false => exact .inr ⟨by simp [Change.asks], rfl⟩
    | true =>
      have now : s.asked (.alerts true) = s.requestPermission.1 := rfl
      rw [now, ← answer]
      cases granted : s.requestPermission.2.isGranted with
      | true =>
        refine .inr ⟨fun _ => by simpa [Permission.isGranted] using granted, ?_⟩
        simp only [change, setEnabled, granted, if_true, settings, Change.onto]
      | false =>
        refine .inl ⟨rfl, fun same => ?_, ?_⟩
        · rw [same] at granted
          cases granted
        · simp only [change, setEnabled, granted, if_true, Bool.false_eq_true, if_false]

/-- Asking moves nothing but the permission, if that was undecided. -/
theorem asked_eq (s : Session) (c : Change) :
    ∃ es p, savesIn es = [] ∧ s.asked c = { s with desk := s.desk.enterAll es, permission := p } ∧
      (p ≠ s.permission → c = .alerts true ∧ s.permission = .undecided) := by
  unfold asked
  cases asks : c.asks with
  | false => exact ⟨[], s.permission, rfl, rfl, fun moved => absurd rfl moved⟩
  | true =>
    rw [if_pos rfl, requestPermission_eq]
    cases undecided : s.permission.canPrompt with
    | false => exact ⟨[], s.permission, rfl, rfl, fun moved => absurd rfl moved⟩
    | true =>
      have quiet : savesIn (promptEntries s.desk.world.promptAnswer) = [] := by
        cases s.desk.world.promptAnswer <;> rfl
      have alerts : c = .alerts true := Change.eq_of_asks asks
      exact ⟨_, _, quiet, rfl, fun _ => ⟨alerts, by simpa [Permission.canPrompt] using undecided⟩⟩

/-- A change is refused with nothing saved, or it is as good as the save. -/
theorem change_outcome (s : Session) (c : Change) :
    ∃ es p, savesIn es = [] ∧
      (p ≠ s.permission → c = .alerts true ∧ s.permission = .undecided) ∧
      ((c.asks = true ∧ p ≠ .granted) ∧
          s.change c = ({ s with desk := s.desk.enterAll es, permission := p }, false) ∨
        (c.asks = true → p = .granted) ∧ s.change c =
          { s with desk := s.desk.enterAll es, permission := p }.persist (c.onto s.settings)) := by
  obtain ⟨es, p, quiet, asked, moved⟩ := s.asked_eq c
  have cases := s.change_cases c
  rw [asked] at cases
  rcases cases with ⟨asks, ungranted, refused⟩ | saved
  · refine ⟨es ++ [.noted (.cannotEnable p)], p, ?_, moved, .inl ⟨⟨asks, ungranted⟩, ?_⟩⟩
    · rw [savesIn_append, quiet]
      rfl
    · rw [refused, note, Desk.note_eq, Desk.enterAll_enterAll]
  · exact ⟨es, p, quiet, moved, .inr saved⟩

/-- What a change may come to, judged by how things stood before. -/
structure AllOrNothing (s : Session) (c : Change) (after : Session) (succeeded : Bool) : Prop where
  /-- It succeeds exactly if the new settings were saved, and permission was granted if it needs it. -/
  succeeds_iff : succeeded = true ↔
    savesIn (s.desk.world.since after.desk.world) = [(c.onto s.settings, none)] ∧
      (c.asks = true → after.permission = .granted)
  /-- Where permission allows, the new settings are saved, once, as far as the surroundings let them. -/
  tried : (c.asks = true → after.permission = .granted) →
    savesIn (s.desk.world.since after.desk.world) =
      [(c.onto s.settings, (s.desk.world.save (c.onto s.settings)).2)]
  /-- After a success the settings with the one field changed are in use and would be loaded. -/
  all : succeeded = true →
    after.settings = c.onto s.settings ∧ after.desk.world.load.2 = c.onto s.settings
  /-- Else the old ones are in use, and the file is as it was. -/
  nothing : succeeded = false →
    after.settings = s.settings ∧ after.desk.world.disk = s.desk.world.disk
  engine : after.engine = s.engine
  initial : after.initial = s.initial
  channel : after.desk.channel? = s.desk.channel?
  attempted : after.desk.attempted = s.desk.attempted
  /-- Only turning alerts on moves the permission, and only if that was undecided. -/
  permission : after.permission ≠ s.permission → c = .alerts true ∧ s.permission = .undecided

variable {s : Session} {c : Change} {es : List Event} {p : Permission}

theorem allOrNothing_of_unsaved (unsaved : (c.onto s.settings, none) ∉ savesIn es)
    (tried : (c.asks = true → p = .granted) →
      savesIn es = [(c.onto s.settings, (s.desk.world.save (c.onto s.settings)).2)])
    (moved : p ≠ s.permission → c = .alerts true ∧ s.permission = .undecided) :
    s.AllOrNothing c { s with desk := s.desk.enterAll es, permission := p } false where
  succeeds_iff := by
    rw [Desk.enterAll_world, World.since_enterAll]
    constructor
    · intro succeeded
      cases succeeded
    · rintro ⟨saved, -⟩
      simp [saved] at unsaved
  tried allowed := by
    rw [Desk.enterAll_world, World.since_enterAll]
    exact tried allowed
  all succeeded := by cases succeeded
  nothing _ := ⟨rfl, World.disk_enterAll _ _⟩
  engine := rfl
  initial := rfl
  channel := rfl
  attempted := rfl
  permission := moved

theorem allOrNothing_of_saved {disk : Disk} (quiet : savesIn es = [])
    (fine : (s.desk.world.save (c.onto s.settings)).2 = none)
    (moved : p ≠ s.permission → c = .alerts true ∧ s.permission = .undecided)
    (allowed : c.asks = true → p = .granted) (stored : disk.slot.load = .record (c.onto s.settings)) :
    s.AllOrNothing c
      { s with
        desk := { s.desk with
          world := { s.desk.world with disk := disk }.enterAll
            (es ++ [Event.saved (c.onto s.settings) none]) }
        permission := p
        settings := c.onto s.settings } true where
  succeeds_iff := by
    rw [World.since_withDisk, savesIn_append, quiet]
    exact iff_of_true rfl ⟨rfl, allowed⟩
  tried _ := by
    rw [World.since_withDisk, savesIn_append, quiet, fine]
    rfl
  all _ := by
    rw [World.load_eq, World.stored, World.disk_enterAll]
    exact ⟨rfl, congrArg Loaded.settings stored⟩
  nothing failed := by cases failed
  engine := rfl
  initial := rfl
  channel := rfl
  attempted := rfl
  permission := moved

/-- In any state of a session, whatever is stored, however the prompt answers and whether or not the
save succeeds, a change of the settings takes place in use and in the file, or in neither. -/
theorem settings_change_is_all_or_nothing (s : Session)
    (spares : s.desk.world.outside.SparesFile) (c : Change) :
    s.AllOrNothing c (s.change c).1 (s.change c).2 := by
  obtain ⟨es, p, quiet, moved, ⟨⟨asks, ungranted⟩, refused⟩ | ⟨allowed, saved⟩⟩ := s.change_outcome c
  · rw [refused]
    exact allOrNothing_of_unsaved (by simp [quiet]) (fun granted => absurd (granted asks) ungranted) moved
  · have spares' : (s.desk.enterAll es).world.outside.SparesFile := by
      rw [Desk.enterAll_world, World.outside_enterAll]
      exact spares
    have outcome : ((s.desk.enterAll es).world.save (c.onto s.settings)).2 =
        (s.desk.world.save (c.onto s.settings)).2 := World.save_enterAll quiet _ _
    rcases persist_cases { s with desk := s.desk.enterAll es, permission := p } _ spares' with
      ⟨disk, stored, fine, taken⟩ | ⟨fault, met, failed⟩
    · rw [saved, taken]
      simp only [Desk.enterAll_world, World.enterAll_withDisk, World.enterAll_enterAll]
      exact allOrNothing_of_saved quiet (outcome.symm.trans fine) moved allowed stored
    · have entered : savesIn (es ++ [.saved (c.onto s.settings) (some fault),
          .noted (.settingsNotSaved fault)]) = [(c.onto s.settings, some fault)] := by
        rw [savesIn_append, quiet]
        rfl
      rw [saved, failed]
      simp only [Desk.enterAll_enterAll]
      refine allOrNothing_of_unsaved ?_ (fun _ => ?_) moved
      · rw [entered]
        simp
      · rw [entered, ← outcome, met]

theorem failingOnce_sparesFile : failingOnce.SparesFile := by
  intro n fault failed
  simp only [failingOnce] at failed
  split at failed
  · cases failed
    rfl
  · cases failed

/-- Where alerts were turned on and the second save fails. -/
def turnedOnSession : Session := ((start damagedWorld "").change (.alerts true)).1

/-- There sound could not be turned off, and is tried again. -/
def triedAgainSession : Session := (turnedOnSession.change (.sound false)).1

/-- Alerts go on by a prompt and a save. After that turning sound off changes nothing while the save
fails, and takes place in use and in the file when it succeeds. -/
theorem sound_kept_by_failed_save :
    turnedOnSession.settings = ⟨true, true⟩ ∧ turnedOnSession.desk.world.load.2 = ⟨true, true⟩ ∧
      turnedOnSession.permission = .granted ∧
      (turnedOnSession.change (.sound false)).1.settings = ⟨true, true⟩ ∧
      (turnedOnSession.change (.sound false)).1.desk.world.disk = turnedOnSession.desk.world.disk ∧
      (triedAgainSession.change (.sound false)).1.settings = ⟨true, false⟩ ∧
      (triedAgainSession.change (.sound false)).1.desk.world.load.2 = ⟨true, false⟩ := by
  have spares : (start damagedWorld "").desk.world.outside.SparesFile := failingOnce_sparesFile
  have spares' : turnedOnSession.desk.world.outside.SparesFile := failingOnce_sparesFile
  have spares'' : triedAgainSession.desk.world.outside.SparesFile := failingOnce_sparesFile
  have before : (start damagedWorld "").settings = ⟨false, true⟩ := by decide +kernel
  have turned := settings_change_is_all_or_nothing _ spares (.alerts true)
  have kept := settings_change_is_all_or_nothing _ spares' (.sound false)
  have changed := settings_change_is_all_or_nothing _ spares'' (.sound false)
  have succeeded : ((start damagedWorld "").change (.alerts true)).2 = true := by decide +kernel
  have failed : (turnedOnSession.change (.sound false)).2 = false := by decide +kernel
  have worked : (triedAgainSession.change (.sound false)).2 = true := by decide +kernel
  obtain ⟨inUse, stored⟩ := turned.all succeeded
  obtain ⟨still, file⟩ := kept.nothing failed
  obtain ⟨now, written⟩ := changed.all worked
  rw [before] at inUse stored
  rw [show triedAgainSession.settings = ⟨true, true⟩ from still.trans inUse] at now written
  exact ⟨inUse, stored, (turned.succeeds_iff.mp succeeded).2 rfl, still.trans inUse, file, now, written⟩

end Session
end AlertRelay
