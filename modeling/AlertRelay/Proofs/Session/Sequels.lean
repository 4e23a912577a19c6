import AlertRelay.Proofs.Session.Licence

/-!
# What comes of calls later

Two things are entered behind the call that they come of, with others in between: the end of a client
that was started in the background, and the opening of the audio device by the thread of a detached
tone. Neither comes by itself. A client that ends was the last to be started, and ends as the host has
it; a thread that comes to the device is that of a tone that was left to it, comes once, and finds the
device as the platform has it. Only what goes on behind the foreground enters any of these.
-/
namespace AlertRelay

namespace Event

def isClient : Event → Bool
  | launched .. | exited .. => true
  | _ => false

/-- It is told of clients in the background or of tones on their threads. -/
def isBehind : Event → Bool
  | launched .. | exited .. | opened .. => true
  | _ => false

/-- What such an entry says is so, judged by the surroundings and by what was entered earlier. -/
def IsFounded (o : Surroundings) (earlier : List Event) : Event → Prop
  | launched r fault? => fault? = launchFault? (o.host.deliver (earlier.countP isDelivery) r)
  | exited r status =>
      (earlier.filter isClient).getLast? = some (launched r none) ∧
        o.host.deliver (earlier.countP isDelivery - 1) r = .ok status
  | opened n fault? =>
      (earlier.filter isTone)[n]?.any isDetached = true ∧ earlier.any (isOpeningOf n) = false ∧
        fault? = o.platform.toneFault n
  | _ => True

theorem isFounded_of_not_isBehind {o : Surroundings} {earlier : List Event} {e : Event}
    (h : e.isBehind = false) : e.IsFounded o earlier := by
  cases e with
  | launched _ _ | exited _ _ | opened _ _ => cases h
  | _ => trivial

theorem not_isBehind_of_isApart {e : Event} (h : e.isApart = true) : e.isBehind = false := by
  cases e <;> first | rfl | cases h

theorem not_isBehind_of_isUnder {allowed sound : Bool} {e : Event}
    (h : e.isUnder allowed sound = true) : e.isBehind = false := by
  cases e <;> first | rfl | cases h

end Event

/-- Each of some entries is founded in what was entered before it. -/
def Founded (o : Surroundings) (earlier : List Event) : List Event → Prop
  | [] => True
  | e :: es => e.IsFounded o earlier ∧ Founded o (earlier ++ [e]) es

variable {o : Surroundings} {earlier es fs : List Event}

theorem Founded.append (first : Founded o earlier es) (second : Founded o (earlier ++ es) fs) :
    Founded o earlier (es ++ fs) := by
  induction es generalizing earlier with
  | nil => simpa using second
  | cons e es ih =>
    obtain ⟨head, tail⟩ := first
    exact ⟨head, ih tail (by simpa using second)⟩

theorem founded_of_not_isBehind (plain : ∀ e ∈ es, e.isBehind = false) : Founded o earlier es := by
  induction es generalizing earlier with
  | nil => trivial
  | cons e es ih =>
    obtain ⟨head, tail⟩ := List.forall_mem_cons.mp plain
    exact ⟨Event.isFounded_of_not_isBehind head, ih tail⟩

/-- Entries of other kinds come between a client's start and its end. -/
theorem Event.IsFounded.exited_later {r : Request} {status : ExitStatus}
    (h : (exited r status).IsFounded o earlier) (plain : ∀ e ∈ es, e.isBehind = false) :
    (exited r status).IsFounded o (earlier ++ es) := by
  obtain ⟨last, outcome⟩ := h
  have no_client : es.filter Event.isClient = [] := by
    rw [List.filter_eq_nil_iff]
    intro e member
    have other := plain e member
    cases e <;> simp_all [Event.isClient, Event.isBehind]
  have no_start : es.countP Event.isDelivery = 0 := by
    rw [List.countP_eq_zero]
    intro e member
    have other := plain e member
    cases e <;> simp_all [Event.isDelivery, Event.isBehind]
  constructor
  · rw [List.filter_append, no_client, List.append_nil]
    exact last
  · rw [List.countP_append, no_start, Nat.add_zero]
    exact outcome

/-! ## At the desk -/

namespace Desk

/-- The client that the worker waits for was the last to be started, and will end as the host has it. -/
def Awaits (d : Desk) : Prop :=
  ∀ r status, d.client? = some (r, status) →
    (Event.exited r status).IsFounded d.world.outside d.world.history

/-- The worker waits for no other client than before. -/
structure Beside (d after : Desk) : Prop where
  outside : after.world.outside = d.world.outside
  client? : ∀ x, after.client? = some x → d.client? = some x

theorem Beside.refl (d : Desk) : d.Beside d := ⟨rfl, fun _ => id⟩

theorem Beside.trans {d after later : Desk} (first : d.Beside after) (second : after.Beside later) :
    d.Beside later :=
  ⟨second.outside.trans first.outside, fun x here => first.client? x (second.client? x here)⟩

theorem beside_enterAll (d : Desk) (es : List Event) : d.Beside (d.enterAll es) :=
  ⟨World.outside_enterAll _ _, fun _ => id⟩

theorem beside_mapChannel (d : Desk) {f : Channel → Channel} (same : ∀ c, (f c).worker = c.worker) :
    d.Beside (d.mapChannel f) :=
  ⟨rfl, fun x here => by rwa [d.client?_mapChannel same] at here⟩

theorem Submits.beside {d after : Desk} {rs : List Request} (h : d.Submits rs after) :
    d.Beside after := by
  obtain ⟨es, rfl, -, -⟩ := h
  have offered : d.Beside (d.offeredAll rs) := by
    rw [offeredAll_eq]
    exact d.beside_mapChannel fun _ => rfl
  exact offered.trans (beside_enterAll _ es)

theorem dispatchAll_beside (ds : List Decision) (d : Desk) (c : Capabilities) (s : Settings) :
    d.Beside (d.dispatchAll c s ds).1 := by
  induction ds generalizing d with
  | nil => exact .refl d
  | cons alert rest ih => exact (d.dispatch_submits c s alert).beside.trans (ih _)

theorem register_beside (d : Desk) (c : Capabilities) (scope : String) :
    d.Beside (d.register c scope).1 := by
  cases tried : d.attempted with
  | true =>
    rw [register_again c scope tried]
    exact .refl d
  | false =>
    rw [register_eq c scope tried]
    refine ⟨World.outside_enterAll _ _, fun x here => ?_⟩
    have free := d.installed?_client? c scope
    cases gave : d.installed? c scope with
    | none => simpa [client?, gave] using here
    | some channel => simp_all [client?]

/-- What was done at the desk is founded, and so is the end of the client that is waited for now. -/
structure Continues (d after : Desk) : Prop where
  outside : after.world.outside = d.world.outside
  entries : Founded d.world.outside d.world.history (d.world.since after.world)
  awaits : after.Awaits

variable {d after : Desk}

theorem Awaits.continues (h : d.Awaits) (beside : d.Beside after)
    (entered : d.world.Enters (fun e => !e.isBehind) after.world) : d.Continues after := by
  obtain ⟨grown, fine⟩ := entered.since
  have plain : ∀ e ∈ d.world.since after.world, e.isBehind = false :=
    fun e member => by simpa using fine e member
  refine ⟨beside.outside, founded_of_not_isBehind plain, fun r status here => ?_⟩
  rw [beside.outside, grown]
  exact (h r status (beside.client? _ here)).exited_later plain

theorem Awaits.same (h : d.Awaits) : d.Continues d := h.continues (.refl d) (.refl d.world)

theorem Awaits.begin (h : d.Awaits) : d.Continues d.begin := by
  rcases d.begin_cases with ⟨same, -⟩ | ⟨c, -, -, begun⟩
  · rw [same]
    exact h.same
  · rw [begun]
    refine h.continues ⟨World.outside_enterAll _ _, fun x here => ?_⟩
      (World.enters_enterAll _ _ (by simp [Event.isBehind]))
    simp [client?, Channel.client?] at here

theorem countP_history (w : World) (kind : Event → Bool) : w.history.countP kind = w.count kind :=
  List.countP_reverse

/-- A client that starts is the last to have started, and ends as the host answered. -/
theorem Awaits.take (h : d.Awaits) : d.Continues d.take := by
  rcases d.take_cases with ⟨same, -⟩ | ⟨c, r, rest, -, running, -, taken⟩
  · rw [same]
    exact h.same
  · have answer : d.world.outside.host.deliver (d.world.history.countP Event.isDelivery) r =
        d.world.delivery r := by rw [countP_history]; rfl
    rw [taken]
    refine ⟨World.outside_enterAll _ _, ?_, fun r' status here => ?_⟩
    · rw [enterAll_world, World.since_enterAll]
      refine ⟨congrArg launchFault? answer.symm, founded_of_not_isBehind ?_⟩
      simp [Event.isBehind]
    · rw [enterAll_world, World.outside_enterAll, World.history_enterAll]
      cases outcome : d.world.delivery r with
      | error fault =>
        simp [client?, outcome, Channel.launched, Channel.client?, running] at here
      | ok status' =>
        simp [client?, outcome, Channel.launched, Channel.await, Channel.client?] at here
        obtain ⟨rfl, rfl⟩ := here
        rw [outcome] at answer
        constructor
        · simp [launchEntries, launchFault?, List.filter_append, Event.isClient]
        · simpa [launchEntries, launchFault?, Event.isDelivery] using answer

/-- The client that ends is the one that was waited for. -/
theorem Awaits.finish (h : d.Awaits) : d.Continues d.finish := by
  rcases d.finish_cases with ⟨same, -⟩ | ⟨c, r, status, channel, busy, finished⟩
  · rw [same]
    exact h.same
  · have waited : d.client? = some (r, status) := by simp [client?, channel, Channel.client?, busy]
    rw [finished]
    refine ⟨World.outside_enterAll _ _, ?_, fun r' status' here => ?_⟩
    · rw [enterAll_world, World.since_enterAll]
      refine ⟨h r status waited, founded_of_not_isBehind ?_⟩
      cases status.isSuccess <;> simp [Event.isBehind]
    · simp [client?, Channel.client?] at here

/-- The thread comes only to a device that was left to it, and only once. -/
theorem Awaits.openTone (h : d.Awaits) (n : Nat) : d.Continues (d.openTone n) := by
  rw [openTone_eq]
  split
  next unopened =>
    obtain ⟨detached, fresh⟩ := Bool.and_eq_true_iff.mp unopened
    refine ⟨World.outside_enterAll _ _, ?_, fun r status here => ?_⟩
    · rw [enterAll_world, World.since_enterAll]
      refine ⟨⟨?_, ?_, rfl⟩, founded_of_not_isBehind ?_⟩
      · rw [World.history, List.filter_reverse]
        exact detached
      · rw [World.history, List.any_reverse]
        simpa using fresh
      · simp [Event.isBehind]
    · obtain ⟨last, outcome⟩ := h r status here
      rw [enterAll_world, World.outside_enterAll, World.history_enterAll]
      have others : (deviceEntries n (d.world.outside.platform.toneFault n)).filter Event.isClient = [] ∧
          (deviceEntries n (d.world.outside.platform.toneFault n)).countP Event.isDelivery = 0 := by
        cases d.world.outside.platform.toneFault n <;> exact ⟨rfl, rfl⟩
      refine ⟨?_, ?_⟩
      · rw [List.filter_append, others.1, List.append_nil]
        exact last
      · rw [List.countP_append, others.2, Nat.add_zero]
        exact outcome
  next => exact h.same

end Desk

/-! ## In a session -/

namespace Session

open World (Enters)

theorem requestPermission_beside (s : Session) : s.desk.Beside s.requestPermission.1.desk := by
  rw [requestPermission_eq]
  split
  · exact Desk.beside_enterAll _ _
  · exact .refl _

theorem persist_beside (s : Session) (t : Settings) : s.desk.Beside (s.persist t).1.desk := by
  have saved : s.desk.Beside { s.desk with world := (s.desk.world.save t).1 } := by
    rw [World.save_eq]
    exact ⟨World.outside_enterAll _ _, fun _ => id⟩
  unfold persist
  simp only
  split
  · exact saved
  · exact saved.trans (Desk.beside_enterAll _ [.noted _])

theorem setEnabled_beside (s : Session) (on : Bool) : s.desk.Beside (s.setEnabled on).1.desk := by
  have asked := s.requestPermission_beside
  rcases s.setEnabled_cases on with ⟨-, refused⟩ | ⟨-, -, saved⟩ | ⟨-, saved⟩
  · rw [refused]
    exact asked.trans (Desk.beside_enterAll _ [.noted _])
  · rw [saved]
    exact asked.trans (persist_beside _ _)
  · rw [saved]
    exact persist_beside _ _

theorem processBatch_beside (s : Session) (batch : Batch) :
    s.desk.Beside (s.processBatch batch).1.desk := by
  have collected : s.desk.Beside s.desk.collected := s.desk.beside_mapChannel fun _ => rfl
  rw [processBatch_eq]
  exact (collected.trans (Desk.beside_enterAll _ _)).trans (Desk.dispatchAll_beside _ _ _ _)

/-- Whatever a step does is founded in what was done before. -/
theorem apply_continues (s : Session) (step : Step) (awaits : s.desk.Awaits) :
    s.desk.Continues (step.apply s).desk := by
  have apart (front : step.mayEnter s = Event.isApart) (beside : s.desk.Beside (step.apply s).desk) :
      s.desk.Continues (step.apply s).desk := by
    refine awaits.continues beside ((s.apply_enters step).mono fun e may => ?_)
    rw [front] at may
    rw [Event.not_isBehind_of_isApart may]
    rfl
  cases step with
  | requestPermission => exact apart rfl s.requestPermission_beside
  | setEnabled on => exact apart rfl (s.setEnabled_beside on)
  | setSound on => exact apart rfl (s.persist_beside _)
  | registerChannel => exact apart rfl (Desk.register_beside _ _ _)
  | overwritten slot => exact apart rfl ⟨rfl, fun _ => id⟩
  | processBatch batch =>
    refine awaits.continues (s.processBatch_beside batch) ((s.apply_enters _).mono fun e may => ?_)
    rw [Event.not_isBehind_of_isUnder may]
    rfl
  | test =>
    refine awaits.continues (s.desk.test_submits s.capabilities).beside
      ((s.apply_enters .test).mono fun e may => ?_)
    rw [Event.not_isBehind_of_isUnder may]
    rfl
  | workerBegins => exact awaits.begin
  | workerTakes => exact awaits.take
  | workerFinishes => exact awaits.finish
  | workerGoes =>
    refine awaits.continues ⟨rfl, fun x here => ?_⟩ (.refl _)
    cases h : s.desk.channel? <;>
      simp [Step.apply, Desk.client?, Desk.mapChannel, h, Channel.abandon, Channel.client?] at here
  | queueEmptied => exact awaits.continues (s.desk.beside_mapChannel fun _ => rfl) (.refl _)
  | toneOpens n => exact awaits.openTone n

/-- A start calls nothing that anything could come of later. -/
theorem start_founded (w : World) (scope : String) :
    (start w scope).desk.world.outside = w.outside ∧
      Founded w.outside w.history (w.since (start w scope).desk.world) ∧
      (start w scope).desk.Awaits := by
  have opened : w.Enters (fun e => !e.isBehind) (w.enterAll (openingEntries w)) := by
    refine World.enters_enterAll w _ ?_
    unfold openingEntries World.loadEntries
    split <;> simp [Event.isBehind]
  have settled : (w.enterAll (openingEntries w)).Enters (fun e => !e.isBehind)
      (reconcile (w.enterAll (openingEntries w)) w.offer w.stored).1 := by
    refine (reconcile_enters _ w.offer w.stored).mono fun e record => ?_
    rw [Event.not_isBehind_of_isApart (Event.isApart_of_isRecord record)]
    rfl
  obtain ⟨-, fine⟩ := (opened.trans settled).since
  rw [start_eq]
  refine ⟨?_, founded_of_not_isBehind fun e member => by simpa using fine e member, nofun⟩
  rw [Desk.new, reconcile_eq]
  split
  · simp only [World.save_eq, World.outside_enterAll]
  · exact World.outside_enterAll _ _

/-- In the course of a session whatever comes later comes of a call that was made before. -/
theorem after_founded (w : World) (scope : String) (steps : List Step) :
    ((start w scope).after steps).desk.world.outside = w.outside ∧
      Founded w.outside w.history (w.since ((start w scope).after steps).desk.world) ∧
      ((start w scope).after steps).desk.Awaits := by
  induction steps using List.reverseRecOn with
  | nil => exact start_founded w scope
  | append_singleton steps step ih =>
    obtain ⟨outside, founded, awaits⟩ := ih
    have next := apply_continues _ step awaits
    have opened : w.Enters (fun _ => true) ((start w scope).after steps).desk.world :=
      (start_entries w scope).1.trans (((start w scope).after_enters steps).mono fun _ _ => rfl)
    obtain ⟨grown, -⟩ := opened.since
    rw [after_append]
    refine ⟨next.outside.trans outside, ?_, next.awaits⟩
    rw [opened.since_trans (apply_enters _ step)]
    refine founded.append ?_
    rw [← grown, ← outside]
    exact next.entries

end Session
end AlertRelay
