import AlertRelay.Proofs.Desk.Background

/-!
# What two runs have in common

Two runs are compared by what is left of each once the part that may differ is taken out. What is
only told to the operator is always taken out. Sound is taken out where it is not compared: tones
and vibrations with their answers and what comes of a tone on its thread, the sound setting, and
with it the octets of the stored record.
Nothing the desk does depends on what was taken out, so each operation leads from desks that are
alike to desks that are alike and gives the same answer on both, except for the answer to a tone.
-/
namespace AlertRelay

def Settings.compared (sound : Bool) (s : Settings) : Settings :=
  ⟨s.enabled, sound && s.soundEnabled⟩

def Event.compared? (sound : Bool) : Event → Option Event
  | noted _ => none
  | toned t p refusal? => if sound then some (toned t p refusal?) else none
  | vibrated pattern refusal? => if sound then some (vibrated pattern refusal?) else none
  | opened n fault? => if sound then some (opened n fault?) else none
  | saved s fault? => some (saved (s.compared sound) fault?)
  | e => some e

/-- Without sound only what stands in the way of a save is compared. -/
def Disk.compared (sound : Bool) (d : Disk) : Disk :=
  if sound then d
  else match d.slot with
    | .file _ => ⟨"", .absent⟩
    | slot => ⟨"", slot⟩

def Platform.compared (sound : Bool) (p : Platform) : Platform :=
  if sound then p
  else { p with
    tone := fun _ _ _ => none
    toneFault := fun _ => none
    vibrate := fun _ _ => none }

def Surroundings.compared (sound : Bool) (o : Surroundings) : Surroundings :=
  { o with platform := o.platform.compared sound }

namespace World

def compared (sound : Bool) (w : World) : World :=
  ⟨w.outside.compared sound, w.disk.compared sound, w.journal.filterMap (Event.compared? sound)⟩

def Alike (sound : Bool) (w v : World) : Prop := w.compared sound = v.compared sound

variable {sound : Bool} {w v : World}

theorem compared_enter (w : World) (e : Event) :
    (w.enter e).compared sound = (w.compared sound).enterAll (e.compared? sound).toList := by
  simp only [compared, enter, List.filterMap_cons]
  cases e.compared? sound <;> rfl

theorem compared_enterAll (w : World) (es : List Event) :
    (w.enterAll es).compared sound =
      (w.compared sound).enterAll (es.filterMap (Event.compared? sound)) := by
  induction es generalizing w with
  | nil => rfl
  | cons e es ih =>
    rw [enterAll_cons, ih, compared_enter, enterAll_enterAll, List.filterMap_cons]
    cases e.compared? sound <;> rfl

theorem Alike.enterAll (h : w.Alike sound v) (es fs : List Event)
    (same : es.filterMap (Event.compared? sound) = fs.filterMap (Event.compared? sound)) :
    (w.enterAll es).Alike sound (v.enterAll fs) := by
  rw [Alike, compared_enterAll, compared_enterAll, show w.compared sound = v.compared sound from h,
    same]

/-- Calls of a kind that is compared are as many in both. -/
theorem Alike.count (h : w.Alike sound v) (kind : Event → Bool)
    (seen : ∀ e, ((e.compared? sound).map kind).getD false = kind e) : w.count kind = v.count kind := by
  have counted (u : World) : (u.compared sound).count kind = u.count kind := by
    simp only [World.count, compared, List.countP_filterMap, seen]
  rw [← counted w, ← counted v, show w.compared sound = v.compared sound from h]

theorem Alike.outside (h : w.Alike sound v) :
    w.outside.compared sound = v.outside.compared sound := congrArg World.outside h

theorem Alike.disk (h : w.Alike sound v) : w.disk.compared sound = v.disk.compared sound :=
  congrArg World.disk h

theorem Alike.withDisk (h : w.Alike sound v) {d e : Disk} (same : d.compared sound = e.compared sound) :
    Alike sound { w with disk := d } { v with disk := e } := by
  have journal := congrArg World.journal h
  simp only [compared] at journal
  simp only [Alike, compared, h.outside, journal, same]

theorem Alike.platform (h : w.Alike sound v) :
    w.outside.platform.compared sound = v.outside.platform.compared sound :=
  congrArg Surroundings.platform h.outside

theorem Alike.host (h : w.Alike sound v) : w.outside.host = v.outside.host := by
  have host := congrArg Surroundings.host h.outside
  exact host

theorem Alike.environment (h : w.Alike sound v) :
    w.outside.platform.environment = v.outside.platform.environment := by
  have environment := congrArg Platform.environment h.platform
  cases sound <;> exact environment

theorem Alike.refusal? (h : w.Alike sound v) (r : Request) : w.refusal? r = v.refusal? r := by
  have notify := congrArg Platform.notify h.platform
  have counted := h.count Event.isNotification fun e => by cases e <;> cases sound <;> rfl
  rw [World.refusal?, World.refusal?, counted]
  cases sound <;> exact congrFun (congrFun notify _) _

theorem Alike.promptAnswer (h : w.Alike sound v) : w.promptAnswer = v.promptAnswer := by
  have prompt := congrArg Platform.prompt h.platform
  have counted := h.count Event.isPrompt fun e => by cases e <;> cases sound <;> rfl
  rw [World.promptAnswer, World.promptAnswer, counted]
  cases sound <;> exact congrFun prompt _

theorem Alike.delivery (h : w.Alike sound v) (r : Request) : w.delivery r = v.delivery r := by
  have counted := h.count Event.isDelivery fun e => by cases e <;> cases sound <;> rfl
  rw [World.delivery, World.delivery, counted, h.host]

theorem Alike.installation (h : w.Alike sound v) (scope : String) :
    w.installation scope = v.installation scope := by
  have counted := h.count Event.isInstall fun e => by cases e <;> cases sound <;> rfl
  rw [World.installation, World.installation, counted, h.host]

theorem Alike.toneRefusal? (h : w.Alike true v) (t : Tone) (p : Playback) :
    w.toneRefusal? t p = v.toneRefusal? t p := by
  have tone : w.outside.platform.tone = v.outside.platform.tone := congrArg Platform.tone h.platform
  have counted := h.count Event.isTone fun e => by cases e <;> rfl
  rw [World.toneRefusal?, World.toneRefusal?, counted, tone]

/-- Which threads have yet to open the device is compared with sound. -/
theorem Alike.isUnopened (h : w.Alike true v) (n : Nat) : w.isUnopened n = v.isUnopened n := by
  have tones (es : List Event) :
      (es.filterMap (Event.compared? true)).filter Event.isTone = es.filter Event.isTone := by
    induction es with
    | nil => rfl
    | cons e es ih =>
      rw [List.filterMap_cons, List.filter_cons, ← ih]
      cases e <;> rfl
  have openings (es : List Event) :
      (es.filterMap (Event.compared? true)).any (Event.isOpeningOf n) =
        es.any (Event.isOpeningOf n) := by
    induction es with
    | nil => rfl
    | cons e es ih =>
      rw [List.filterMap_cons, List.any_cons, ← ih]
      cases e <;> rfl
  have same (u : World) : (u.compared true).isUnopened n = u.isUnopened n := by
    simp only [World.isUnopened, World.tones, World.compared, tones, openings]
  rw [← same w, ← same v, show w.compared true = v.compared true from h]

theorem Alike.vibrationRefusal? (h : w.Alike true v) (pattern : List Nat) :
    w.vibrationRefusal? pattern = v.vibrationRefusal? pattern := by
  have vibrate : w.outside.platform.vibrate = v.outside.platform.vibrate :=
    congrArg Platform.vibrate h.platform
  have counted := h.count Event.isVibration fun e => by cases e <;> rfl
  rw [World.vibrationRefusal?, World.vibrationRefusal?, counted, vibrate]

end World

/-- What comes of a save depends on what is compared alone. -/
theorem Disk.save_compared {sound : Bool} {d e : Disk} (h : d.compared sound = e.compared sound)
    {s t : Settings} (same : s.compared sound = t.compared sound) (fault? : Option SaveFault) :
    (d.save s fault?).2 = (e.save t fault?).2 ∧
      (d.save s fault?).1.compared sound = (e.save t fault?).1.compared sound := by
  cases sound with
  | true =>
    have disk : d = e := h
    have settings : s = t := same
    rw [disk, settings]
    exact ⟨rfl, rfl⟩
  | false =>
    obtain ⟨path, slot⟩ := d
    obtain ⟨path', slot'⟩ := e
    cases slot <;> cases slot' <;> simp [Disk.compared] at h <;>
      rcases fault? with _ | ⟨fault, _ | n⟩ <;> exact ⟨rfl, rfl⟩

theorem World.Alike.save {sound : Bool} {w v : World} (h : w.Alike sound v) {s t : Settings}
    (same : s.compared sound = t.compared sound) :
    (w.save s).1.Alike sound (v.save t).1 ∧ (w.save s).2 = (v.save t).2 := by
  have faults := congrArg Surroundings.saveFault h.outside
  have counted := h.count Event.isSave fun e => by cases e <;> cases sound <;> rfl
  obtain ⟨outcome, disk⟩ := Disk.save_compared h.disk same
    (w.outside.saveFault (w.count Event.isSave))
  have met : w.outside.saveFault (w.count Event.isSave) =
      v.outside.saveFault (v.count Event.isSave) := by
    rw [counted]
    exact congrFun faults _
  rw [met] at outcome disk
  rw [save_eq, save_eq, saveOutcome, saveOutcome, met, outcome]
  refine ⟨(h.withDisk disk).enterAll _ _ ?_, rfl⟩
  simp only [List.filterMap_cons, List.filterMap_nil, Event.compared?, same]

namespace Desk

structure Alike (sound : Bool) (d e : Desk) : Prop where
  world : d.world.Alike sound e.world
  attempted : d.attempted = e.attempted
  channel? : d.channel? = e.channel?

variable {sound : Bool} {d e : Desk}

theorem Alike.enterAll (h : d.Alike sound e) (es fs : List Event)
    (same : es.filterMap (Event.compared? sound) = fs.filterMap (Event.compared? sound)) :
    (d.enterAll es).Alike sound (e.enterAll fs) :=
  ⟨h.world.enterAll es fs same, h.attempted, h.channel?⟩

theorem compared_notices (ns : List Notice) :
    (ns.map Event.noted).filterMap (Event.compared? sound) = [] := by
  rw [List.filterMap_map, List.filterMap_eq_nil_iff]
  exact fun _ _ => rfl

/-- What the operator is told makes no difference. -/
theorem Alike.noteAll (h : d.Alike sound e) (ns ms : List Notice) :
    (d.noteAll ns).Alike sound (e.noteAll ms) := by
  rw [noteAll_eq, noteAll_eq]
  exact h.enterAll _ _ ((compared_notices ns).trans (compared_notices ms).symm)

theorem Alike.note (h : d.Alike sound e) (n : Notice) : (d.note n).Alike sound (e.note n) :=
  h.noteAll [n] [n]

theorem Alike.mapChannel (h : d.Alike sound e) (f : Channel → Channel) :
    (d.mapChannel f).Alike sound (e.mapChannel f) :=
  ⟨h.world, h.attempted, by rw [Desk.mapChannel, Desk.mapChannel, h.channel?]⟩

theorem Alike.room (h : d.Alike sound e) : d.room = e.room := by rw [Desk.room, Desk.room, h.channel?]

theorem Alike.handoverEntries (h : d.Alike sound e) (r : Request) :
    d.handoverEntries r = e.handoverEntries r := by
  rw [Desk.handoverEntries, Desk.handoverEntries, h.room, h.channel?, h.world.refusal?]

theorem Alike.present (h : d.Alike sound e) (r : Request) :
    (d.present .channelFirst r).1.Alike sound (e.present .channelFirst r).1 ∧
      (d.present .channelFirst r).2 = (e.present .channelFirst r).2 := by
  rw [present_eq, present_eq]
  constructor
  · refine (h.mapChannel _).enterAll _ _ ?_
    rw [h.handoverEntries]
  · rw [handover, handover, h.room, h.world.refusal?]

/-- Sound may be on in one and off in the other where it is not compared. -/
theorem Alike.feedback (h : d.Alike sound e) (on on' : Bool) (same : (sound && on) = (sound && on'))
    (p : Playback) :
    (if on then (d.feedback p).1 else d).Alike sound (if on' then (e.feedback p).1 else e) := by
  rw [feedback_eq, feedback_eq]
  cases sound with
  | true =>
    have settings : on = on' := same
    rw [settings, h.world.toneRefusal?, h.world.vibrationRefusal?]
    cases on' with
    | true => exact h.enterAll _ _ rfl
    | false => exact h
  | false =>
    have unheard (tone? still? : Option PlatformError) :
        (feedbackEntries p tone? still?).filterMap (Event.compared? false) = [] := by
      cases tone? <;> cases still? <;> rfl
    cases on <;> cases on'
    · exact h
    · exact h.enterAll [] _ (unheard _ _).symm
    · exact h.enterAll _ [] (unheard _ _)
    · exact h.enterAll _ _ ((unheard _ _).trans (unheard _ _).symm)

theorem Alike.dispatch (h : d.Alike sound e) (c : Capabilities) {s t : Settings}
    (same : s.compared sound = t.compared sound) (alert : Decision) :
    (d.dispatch .channelFirst c s alert).1.Alike sound (e.dispatch .channelFirst c t alert).1 ∧
      (d.dispatch .channelFirst c s alert).2 = (e.dispatch .channelFirst c t alert).2 := by
  cases allowed : c.canNotify with
  | false =>
    simp only [Desk.dispatch, allowed]
    exact ⟨h.note _, rfl⟩
  | true =>
    obtain ⟨shown, answer⟩ := h.present alert.request
    have followed := shown.feedback _ _ (congrArg Settings.soundEnabled same) .detached
    have split (d : Desk) (s : Settings) : d.dispatch .channelFirst c s alert =
        (if s.soundEnabled then ((d.present .channelFirst alert.request).1.feedback .detached).1
          else (d.present .channelFirst alert.request).1,
          (d.present .channelFirst alert.request).2) := by
      cases sound : s.soundEnabled <;> simp [Desk.dispatch, allowed, sound]
    rw [split, split]
    exact ⟨followed, answer⟩

/-- For each alert whether it was delivered. -/
def results (d : Desk) (c : Capabilities) (s : Settings) : List Decision → List Bool
  | [] => []
  | alert :: rest =>
      (d.dispatch .channelFirst c s alert).2 ::
        (d.dispatch .channelFirst c s alert).1.results c s rest

theorem dispatchAll_delivered (ds : List Decision) (d : Desk) (c : Capabilities) (s : Settings) :
    (d.dispatchAll c s ds).2 = (d.results c s ds).count true := by
  induction ds generalizing d with
  | nil => rfl
  | cons alert rest ih =>
    rw [results, List.count_cons, ← ih]
    cases delivered : (d.dispatch .channelFirst c s alert).2 <;> simp [dispatchAll, delivered]

theorem Alike.dispatchAll (h : d.Alike sound e) (c : Capabilities) {s t : Settings}
    (same : s.compared sound = t.compared sound) (ds : List Decision) :
    (d.dispatchAll c s ds).1.Alike sound (e.dispatchAll c t ds).1 ∧
      d.results c s ds = e.results c t ds := by
  induction ds generalizing d e with
  | nil => exact ⟨h, rfl⟩
  | cons alert rest ih =>
    obtain ⟨first, delivered⟩ := h.dispatch c same alert
    obtain ⟨others, results⟩ := ih first
    refine ⟨others, ?_⟩
    rw [Desk.results, Desk.results, delivered, results]

/-- Whether the test's tone played is the one answer that depends on sound. -/
theorem Alike.test (h : d.Alike sound e) (c : Capabilities) :
    (d.test .channelFirst c).1.Alike sound (e.test .channelFirst c).1 ∧
      (d.test .channelFirst c).2.notificationShown = (e.test .channelFirst c).2.notificationShown := by
  cases allowed : c.canNotify with
  | false =>
    have followed := h.feedback true true rfl .confirmed
    simp only [Desk.test, allowed]
    exact ⟨followed, rfl⟩
  | true =>
    obtain ⟨shown, answer⟩ := h.present .manualTest
    have followed := shown.feedback true true rfl .confirmed
    simp only [Desk.test, allowed]
    exact ⟨followed, answer⟩

theorem Alike.register (h : d.Alike sound e) (c : Capabilities) (scope : String) :
    (d.register c scope).1.Alike sound (e.register c scope).1 := by
  cases tried : e.attempted with
  | true =>
    rw [register_again c scope tried, register_again c scope (h.attempted.trans tried)]
    exact h
  | false =>
    rw [register_eq c scope tried, register_eq c scope (h.attempted.trans tried)]
    have entries : d.registrationEntries c scope = e.registrationEntries c scope := by
      rw [registrationEntries, registrationEntries, h.world.installation]
    have channel : d.installed? c scope = e.installed? c scope := by
      rw [installed?, installed?, h.world.installation]
    have installed : Alike sound
        { d with attempted := true, channel? := (d.installed? c scope).or d.channel? }
        { e with attempted := true, channel? := (e.installed? c scope).or e.channel? } :=
      ⟨h.world, rfl, by rw [channel, h.channel?]⟩
    exact installed.enterAll _ _ (by rw [entries])

theorem Alike.poll (h : d.Alike sound e) : d.poll.1.Alike sound e.poll.1 := by
  rw [poll_eq, poll_eq]
  exact (h.mapChannel _).noteAll _ _

theorem Alike.begin (h : d.Alike sound e) : d.begin.Alike sound e.begin := by
  unfold Desk.begin
  rw [h.channel?]
  cases e.channel?.bind Channel.begin? with
  | none => exact h
  | some c =>
    have begun : Alike sound { d with channel? := some c } { e with channel? := some c } :=
      ⟨h.world, h.attempted, rfl⟩
    exact begun.note _

theorem Alike.take (h : d.Alike sound e) : d.take.Alike sound e.take := by
  unfold Desk.take
  rw [h.channel?]
  cases e.channel?.bind Channel.take? with
  | none => exact h
  | some front =>
    obtain ⟨r, c⟩ := front
    simp only [World.launch_eq, h.world.delivery]
    generalize e.world.delivery r = outcome
    have launched (channel? : Option Channel) : Alike sound
        { d with
          world := d.world.enterAll [.launched r (launchFault? outcome)]
          channel? := channel? }
        { e with
          world := e.world.enterAll [.launched r (launchFault? outcome)]
          channel? := channel? } :=
      ⟨h.world.enterAll _ _ rfl, h.attempted, rfl⟩
    cases outcome with
    | ok status => exact launched _
    | error fault => exact (launched _).note _

theorem Alike.finish (h : d.Alike sound e) : d.finish.Alike sound e.finish := by
  unfold Desk.finish
  rw [h.channel?]
  cases e.channel?.bind Channel.finish? with
  | none => exact h
  | some ended =>
    obtain ⟨r, status, c⟩ := ended
    have finished : Alike sound
        { d with channel? := some c, world := d.world.enter (.exited r status) }
        { e with channel? := some c, world := e.world.enter (.exited r status) } :=
      ⟨h.world.enterAll [.exited r status] [.exited r status] rfl, h.attempted, rfl⟩
    simp only
    split
    · exact finished
    · exact finished.note _

/-- Where sound is not compared, the thread of a tone may come to the device in one and not in the
other. -/
theorem Alike.openTone (h : d.Alike sound e) (n : Nat) :
    (d.openTone n).Alike sound (e.openTone n) := by
  rw [openTone_eq, openTone_eq]
  cases sound with
  | true =>
    have fault : d.world.outside.platform.toneFault = e.world.outside.platform.toneFault :=
      congrArg Platform.toneFault h.world.platform
    rw [h.world.isUnopened, fault]
    split
    · exact h.enterAll _ _ rfl
    · exact h
  | false =>
    have unheard (fault? : Option String) :
        (deviceEntries n fault?).filterMap (Event.compared? false) = [] := by
      cases fault? <;> rfl
    split <;> split
    · exact h.enterAll _ _ ((unheard _).trans (unheard _).symm)
    · exact h.enterAll _ [] (unheard _)
    · exact h.enterAll [] _ (unheard _).symm
    · exact h

end Desk
end AlertRelay
