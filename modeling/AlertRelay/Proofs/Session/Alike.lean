import AlertRelay.Proofs.Desk.Alike
import AlertRelay.Proofs.Session.Start
import AlertRelay.Proofs.Session.Step

/-!
# Sessions that are alike

Two sessions are alike that have in common all that is compared. Every operation, every step of the
worker and every message keeps them so, and comes to the same alerts and the same deliveries in both.
-/
namespace AlertRelay

theorem Engine.evaluate_congr (e : Engine) (batch : Batch) {s t : Settings}
    (same : s.enabled = t.enabled) : e.evaluate batch s = e.evaluate batch t := by
  rw [evaluate, evaluate, same]

namespace Session

structure Alike (sound : Bool) (s t : Session) : Prop where
  desk : s.desk.Alike sound t.desk
  scope : s.scope = t.scope
  initial : s.initial = t.initial
  permission : s.permission = t.permission
  settings : s.settings.compared sound = t.settings.compared sound
  engine : s.engine = t.engine

/-- For each alert of a poll whether it was delivered. -/
def results (s : Session) (batch : Batch) : List Bool :=
  let os := (s.engine.evaluate batch s.settings).2
  (s.desk.collected.enterAll ((s.pollNotices os).map .noted)).results s.capabilities s.settings
    (decisionsOf os)

theorem processBatch_delivered (s : Session) (batch : Batch) :
    (s.processBatch batch).2.delivered = (s.results batch).count true := by
  rw [processBatch_eq]
  exact Desk.dispatchAll_delivered _ _ _ _

variable {sound : Bool} {s t : Session}

theorem Alike.enabled (h : s.Alike sound t) : s.settings.enabled = t.settings.enabled := by
  have enabled := congrArg Settings.enabled h.settings
  exact enabled

theorem Alike.soundEnabled (h : s.Alike sound t) :
    (sound && s.settings.soundEnabled) = (sound && t.settings.soundEnabled) :=
  congrArg Settings.soundEnabled h.settings

theorem Alike.capabilities (h : s.Alike sound t) : s.capabilities = t.capabilities := by
  rw [Session.capabilities, Session.capabilities, h.initial, h.permission]

theorem Alike.onDesk (h : s.Alike sound t) {d e : Desk} (desk : d.Alike sound e) :
    Alike sound { s with desk := d } { t with desk := e } :=
  ⟨desk, h.scope, h.initial, h.permission, h.settings, h.engine⟩

/-- What the operator is told makes no difference. -/
theorem Alike.note (h : s.Alike sound t) (n m : Notice) : (s.note n).Alike sound (t.note m) :=
  h.onDesk (h.desk.noteAll [n] [m])

/-! ## Operations -/

theorem Alike.requestPermission (h : s.Alike sound t) :
    s.requestPermission.1.Alike sound t.requestPermission.1 ∧
      s.requestPermission.2 = t.requestPermission.2 := by
  rw [requestPermission_eq, requestPermission_eq, h.permission, h.desk.world.promptAnswer]
  split
  · let asked := promptEntries t.desk.world.promptAnswer
    have prompted := h.desk.enterAll asked asked rfl
    exact ⟨⟨prompted, h.scope, h.initial, rfl, h.settings, h.engine⟩, rfl⟩
  · exact ⟨h, rfl⟩

theorem Alike.persist (h : s.Alike sound t) {a b : Settings}
    (same : a.compared sound = b.compared sound) :
    (s.persist a).1.Alike sound (t.persist b).1 ∧ (s.persist a).2 = (t.persist b).2 := by
  obtain ⟨world, fault⟩ := h.desk.world.save same
  have desk : Desk.Alike sound { s.desk with world := (s.desk.world.save a).1 }
      { t.desk with world := (t.desk.world.save b).1 } :=
    ⟨world, h.desk.attempted, h.desk.channel?⟩
  unfold Session.persist
  simp only [fault]
  cases (t.desk.world.save b).2 with
  | none => exact ⟨⟨desk, h.scope, h.initial, h.permission, same, h.engine⟩, rfl⟩
  | some fault => exact ⟨(h.onDesk desk).note _ _, rfl⟩

theorem Alike.setEnabled (h : s.Alike sound t) (on : Bool) :
    (s.setEnabled on).1.Alike sound (t.setEnabled on).1 ∧
      (s.setEnabled on).2 = (t.setEnabled on).2 := by
  have set {s t : Session} (h : s.Alike sound t) : Settings.compared sound ⟨on, s.settings.soundEnabled⟩ =
      Settings.compared sound ⟨on, t.settings.soundEnabled⟩ :=
    congrArg (Settings.mk on) h.soundEnabled
  cases on with
  | false => exact h.persist (set h)
  | true =>
    obtain ⟨asked, answer⟩ := h.requestPermission
    simp only [Session.setEnabled, if_true, answer]
    split
    · exact asked.persist (set asked)
    · exact ⟨asked.note _ _, rfl⟩

theorem Alike.setSound (h : s.Alike sound t) (on on' : Bool) (same : (sound && on) = (sound && on')) :
    (s.setSound on).1.Alike sound (t.setSound on').1 ∧
      (s.setSound on).2 = (t.setSound on').2 := by
  refine h.persist ?_
  rw [Settings.compared, Settings.compared, h.enabled, same]

theorem Alike.registerChannel (h : s.Alike sound t) :
    s.registerChannel.1.Alike sound t.registerChannel.1 := by
  have registered := h.desk.register s.capabilities s.scope
  simp only [Session.registerChannel, ← h.capabilities, ← h.scope]
  exact ⟨registered, rfl, h.initial, h.permission, h.settings, h.engine⟩

theorem Alike.processBatch (h : s.Alike sound t) (batch : Batch) :
    (s.processBatch batch).1.Alike sound (t.processBatch batch).1 ∧
      (s.processBatch batch).2.decisions = (t.processBatch batch).2.decisions ∧
      s.results batch = t.results batch := by
  rw [processBatch_eq, processBatch_eq, results, results, ← h.capabilities, ← h.engine,
    Engine.evaluate_congr s.engine batch h.enabled]
  let os := (s.engine.evaluate batch t.settings).2
  have told : Desk.Alike sound (s.desk.collected.enterAll ((s.pollNotices os).map .noted))
      (t.desk.collected.enterAll ((t.pollNotices os).map .noted)) := by
    rw [← Desk.noteAll_eq, ← Desk.noteAll_eq]
    exact (h.desk.mapChannel _).noteAll _ _
  obtain ⟨sent, results⟩ := told.dispatchAll s.capabilities h.settings (decisionsOf os)
  exact ⟨⟨sent, h.scope, h.initial, h.permission, h.settings, rfl⟩, rfl, results⟩

theorem Alike.test (h : s.Alike sound t) :
    s.test.1.Alike sound t.test.1 ∧ s.test.2.notificationShown = t.test.2.notificationShown := by
  obtain ⟨desk, shown⟩ := h.desk.test s.capabilities
  rw [Session.test, Session.test, ← h.capabilities]
  exact ⟨h.onDesk desk, shown⟩

/-! ## Steps and messages -/

theorem Alike.apply (h : s.Alike sound t) (step : Step) : (step.apply s).Alike sound (step.apply t) := by
  cases step with
  | requestPermission => exact h.requestPermission.1
  | setEnabled on => exact (h.setEnabled on).1
  | setSound on => exact (h.setSound on on rfl).1
  | registerChannel => exact h.registerChannel
  | processBatch batch => exact (h.processBatch batch).1
  | test => exact h.test.1
  | workerBegins => exact h.onDesk h.desk.begin
  | workerTakes => exact h.onDesk h.desk.take
  | workerFinishes => exact h.onDesk h.desk.finish
  | workerGoes | queueEmptied => exact h.onDesk (h.desk.mapChannel _)
  | toneOpens n => exact h.onDesk (h.desk.openTone n)
  | overwritten slot =>
    refine h.onDesk ⟨h.desk.world.withDisk ?_, h.desk.attempted, h.desk.channel?⟩
    have disk := h.desk.world.disk
    cases sound with
    | true => exact congrArg (Disk.mk · slot) (congrArg Disk.path disk)
    | false => cases slot <;> rfl

theorem Alike.noteAll (h : s.Alike sound t) (ns ms : List Notice) :
    (s.noteAll ns).Alike sound (t.noteAll ms) := h.onDesk (h.desk.noteAll ns ms)

theorem Alike.handle (h : s.Alike sound t) (m : Feed.Message) :
    (s.handle m).Alike sound (t.handle m) := by
  obtain ⟨ns, handled⟩ := s.handle_eq m
  obtain ⟨ms, handled'⟩ := t.handle_eq m
  rw [handled, handled']
  refine Alike.noteAll ?_ ns ms
  unfold operated
  cases operation? m with
  | none => exact h
  | some step => exact h.apply step

theorem Alike.handle_sound (h : s.Alike false t) (on on' : Bool) :
    (s.handle (.sound on)).Alike false (t.handle (.sound on')) := by
  obtain ⟨ns, handled⟩ := s.handle_eq (.sound on)
  obtain ⟨ms, handled'⟩ := t.handle_eq (.sound on')
  rw [handled, handled']
  exact Alike.noteAll (h.setSound on on' rfl).1 ns ms

/-! ## Starts -/

theorem loadEntries_compared (w : World) :
    w.loadEntries.filterMap (Event.compared? sound) = [] := by
  unfold World.loadEntries
  split <;> rfl

theorem reconcile_alike {w v : World} (h : w.Alike sound v) (c : Capabilities) {a b : Settings}
    (same : a.compared sound = b.compared sound) :
    (reconcile w c a).1.Alike sound (reconcile v c b).1 ∧
      (reconcile w c a).2.compared sound = (reconcile v c b).2.compared sound := by
  have enabled := congrArg Settings.enabled same
  have heard := congrArg Settings.soundEnabled same
  simp only [Settings.compared] at enabled heard
  have off : Settings.compared sound { a with enabled := false } =
      Settings.compared sound { b with enabled := false } := congrArg (Settings.mk false) heard
  rw [reconcile_eq, reconcile_eq, enabled]
  split
  · have told := h.enterAll [.noted (.alertsTurnedOff c.permission)]
      [.noted (.alertsTurnedOff c.permission)] rfl
    obtain ⟨saved, fault⟩ := told.save off
    simp only [fault]
    exact ⟨saved.enterAll _ _ rfl, off⟩
  · exact ⟨h, same⟩

/-- Sessions start alike in worlds that are, where what is stored is. -/
theorem start_alike {w v : World} (h : w.Alike sound v)
    (stored : w.stored.compared sound = v.stored.compared sound) (scope : String) :
    (start w scope).Alike sound (start v scope) := by
  have offer : w.offer = v.offer := congrArg Environment.capabilities h.environment
  have opened : (w.enterAll (openingEntries w)).Alike sound (v.enterAll (openingEntries v)) := by
    refine h.enterAll _ _ ?_
    rw [openingEntries, openingEntries, h.environment, List.filterMap_append, List.filterMap_append,
      loadEntries_compared, loadEntries_compared]
    rfl
  have reconciled := reconcile_alike opened v.offer stored
  rw [start_eq, start_eq, offer]
  exact ⟨⟨reconciled.1, rfl, rfl⟩, rfl, rfl, rfl, reconciled.2, rfl⟩

end Session
end AlertRelay
