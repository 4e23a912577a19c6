import AlertRelay.World

/-!
# The journal as a history

Everything that is called or told comes down to entries at the end of a history. Each call is its
entry together with the answer, and the answer depends on the outside and on how many calls of that
kind the history holds. What comes of a client or of a tone on its thread later is an entry of its
own. Only a save touches the disk, and nothing changes the outside.
-/
namespace AlertRelay

/-- Something was called or came of a call, and was not only told. -/
def Event.isCall (e : Event) : Bool := e.notice?.isNone

namespace World

/-- The journal, oldest entry first. -/
def history (w : World) : List Event := w.journal.reverse

/-- What was entered after an earlier world, oldest first. -/
def since (before after : World) : List Event := after.history.drop before.history.length

def enterAll (w : World) (es : List Event) : World := es.foldl enter w

theorem since_of_history {before after : World} {es : List Event}
    (h : after.history = before.history ++ es) : before.since after = es := by
  rw [since, h, List.drop_left]

@[simp] theorem enterAll_nil (w : World) : w.enterAll [] = w := rfl

theorem enterAll_cons (w : World) (e : Event) (es : List Event) :
    w.enterAll (e :: es) = (w.enter e).enterAll es := rfl

theorem note_eq (w : World) (n : Notice) : w.note n = w.enterAll [.noted n] := rfl

theorem noteAll_eq (w : World) (ns : List Notice) : w.noteAll ns = w.enterAll (ns.map .noted) := by
  rw [noteAll, enterAll, List.foldl_map]
  rfl

@[simp] theorem enterAll_enterAll (w : World) (es fs : List Event) :
    (w.enterAll es).enterAll fs = w.enterAll (es ++ fs) := (List.foldl_append ..).symm

@[simp] theorem outside_enterAll (w : World) (es : List Event) :
    (w.enterAll es).outside = w.outside := by
  induction es generalizing w with
  | nil => rfl
  | cons e es ih => rw [enterAll_cons, ih]; rfl

@[simp] theorem disk_enterAll (w : World) (es : List Event) : (w.enterAll es).disk = w.disk := by
  induction es generalizing w with
  | nil => rfl
  | cons e es ih => rw [enterAll_cons, ih]; rfl

theorem enterAll_withDisk (w : World) (es : List Event) (disk : Disk) :
    { w.enterAll es with disk := disk } = { w with disk := disk }.enterAll es := by
  induction es generalizing w with
  | nil => rfl
  | cons e es ih => exact ih (w.enter e)

@[simp] theorem history_enterAll (w : World) (es : List Event) :
    (w.enterAll es).history = w.history ++ es := by
  induction es generalizing w with
  | nil => simp
  | cons e es ih =>
    rw [enterAll_cons, ih]
    simp [history, enter]

theorem since_enterAll (w : World) (es : List Event) : w.since (w.enterAll es) = es :=
  since_of_history (history_enterAll w es)

/-- Entries are told by the journal whatever became of the disk. -/
theorem since_withDisk (w : World) (disk : Disk) (es : List Event) :
    w.since ({ w with disk := disk }.enterAll es) = es := by
  apply since_of_history
  rw [history_enterAll]
  rfl

/-- Nothing happened but entries. -/
def Extends (w v : World) : Prop := ∃ es, v = w.enterAll es

theorem extends_refl (w : World) : w.Extends w := ⟨[], rfl⟩

theorem Extends.trans {w v u : World} (first : w.Extends v) (second : v.Extends u) :
    w.Extends u := by
  obtain ⟨es, rfl⟩ := first
  obtain ⟨fs, rfl⟩ := second
  exact ⟨es ++ fs, enterAll_enterAll w es fs⟩

theorem Extends.since_enterAll {w v : World} (h : w.Extends v) (es : List Event) :
    w.since (v.enterAll es) = w.since v ++ es := by
  obtain ⟨fs, rfl⟩ := h
  rw [enterAll_enterAll, World.since_enterAll, World.since_enterAll]

theorem Extends.outside {w v : World} (h : w.Extends v) : v.outside = w.outside := by
  obtain ⟨es, rfl⟩ := h
  exact outside_enterAll w es

theorem Extends.disk {w v : World} (h : w.Extends v) : v.disk = w.disk := by
  obtain ⟨es, rfl⟩ := h
  exact disk_enterAll w es

/-! ## The answers of the outside -/

def refusal? (w : World) (r : Request) : Option PlatformError :=
  w.outside.platform.notify (w.count Event.isNotification) r

def toneRefusal? (w : World) (t : Tone) (p : Playback) : Option PlatformError :=
  w.outside.platform.tone (w.count Event.isTone) t p

def vibrationRefusal? (w : World) (pattern : List Nat) : Option PlatformError :=
  w.outside.platform.vibrate (w.count Event.isVibration) pattern

def delivery (w : World) (r : Request) : Except IoFault ExitStatus :=
  w.outside.host.deliver (w.count Event.isDelivery) r

def installation (w : World) (scope : String) : Except PlatformError Installation :=
  w.outside.host.install (w.count Event.isInstall) scope

def promptAnswer (w : World) : Except PlatformError Permission :=
  w.outside.platform.prompt (w.count Event.isPrompt)

theorem notify_eq (w : World) (r : Request) :
    w.notify r = (w.enterAll [.notified r (w.refusal? r)], w.refusal? r) := rfl

theorem tone_eq (w : World) (t : Tone) (p : Playback) :
    w.tone t p = (w.enterAll [.toned t p (w.toneRefusal? t p)], w.toneRefusal? t p) := rfl

theorem vibrate_eq (w : World) (pattern : List Nat) :
    w.vibrate pattern =
      (w.enterAll [.vibrated pattern (w.vibrationRefusal? pattern)], w.vibrationRefusal? pattern) :=
  rfl

theorem launch_eq (w : World) (r : Request) :
    w.launch r = (w.enterAll [.launched r (launchFault? (w.delivery r))], w.delivery r) := rfl

theorem openDevice_eq (w : World) (n : Nat) :
    w.openDevice n =
      (w.enterAll [.opened n (w.outside.platform.toneFault n)], w.outside.platform.toneFault n) := rfl

theorem install_eq (w : World) (scope : String) :
    w.install scope =
      (w.enterAll [.installed scope (w.installation scope)], w.installation scope) := rfl

theorem prompt_eq (w : World) :
    w.prompt = (w.enterAll [.prompted w.promptAnswer], w.promptAnswer) := rfl

/-- What a save comes to. -/
def saveOutcome (w : World) (s : Settings) : Disk × Option IoFault :=
  w.disk.save s (w.outside.saveFault (w.count Event.isSave))

theorem save_eq (w : World) (s : Settings) :
    w.save s = ({ w with disk := (w.saveOutcome s).1 }.enterAll [.saved s (w.saveOutcome s).2],
      (w.saveOutcome s).2) := rfl

theorem count_enterAll (w : World) (es : List Event) (kind : Event → Bool) :
    (w.enterAll es).count kind = w.count kind + es.countP kind := by
  have counted (v : World) : v.count kind = v.history.countP kind := by
    rw [history, count, List.countP_reverse]
  rw [counted, counted, history_enterAll, List.countP_append]

/-- Entries that are no vibration leave the next vibration's answer as it is. -/
theorem vibrationRefusal?_enterAll (w : World) (es : List Event) (pattern : List Nat)
    (others : es.countP Event.isVibration = 0) :
    (w.enterAll es).vibrationRefusal? pattern = w.vibrationRefusal? pattern := by
  rw [vibrationRefusal?, vibrationRefusal?, outside_enterAll, count_enterAll, others, Nat.add_zero]

/-- Entries that are no notification leave the next notification's answer as it is. -/
theorem refusal?_enterAll (w : World) (es : List Event) (r : Request)
    (others : es.countP Event.isNotification = 0) :
    (w.enterAll es).refusal? r = w.refusal? r := by
  rw [refusal?, refusal?, outside_enterAll, count_enterAll, others, Nat.add_zero]

end World
end AlertRelay
