import AlertRelay.Proofs.Alert
import AlertRelay.Proofs.Desk.Shift

/-!
# Attempts for one key

An alert is tried to be shown once, from the foreground or by the worker, and the journal tells when
its client was started and how that ended. A client of the foreground ends at once; one of the worker
runs for a while, and shows its alert at some time before it ends. For the alerts of one key the desk
does one of two things: a request joins the queue where there is room, and is tried at once where there
is none, ahead of what is queued and beside the client that the worker waits for.
-/
namespace AlertRelay

/-- It is an alert for that key. The manual test has the tag of a key too, and is none. -/
def Request.isAlertFor (r : Request) (key : String) : Bool := r.tag == tagOf key && r.requireInteraction

theorem Decision.compose_isAlertFor (k : String) (n : UInt32) (key : String) :
    (compose k n).request.isAlertFor key = (k == key) := by
  have tags : (tagOf k == tagOf key) = (k == key) := by
    rw [Bool.eq_iff_iff, beq_iff_eq, beq_iff_eq, tagOf_inj]
  simp [Request.isAlertFor, compose, request, tags]

theorem Request.manualTest_isAlertFor (key : String) : manualTest.isAlertFor key = false := by
  simp [isAlertFor, manualTest]

/-- The request that was tried to be shown, from either end and whatever comes of it. -/
def Event.tried? : Event → Option Request
  | notified r _ | launched r _ => some r
  | _ => none

/-- The attempt that came to its end, and whether its request was shown. -/
def Event.ended? : Event → Option (Request × Bool)
  | notified r refusal? => some (r, refusal?.isNone)
  | launched r (some _) => some (r, false)
  | exited r status => some (r, status.isSuccess)
  | _ => none

/-- What was tried to be shown for a key, in the order in which it was begun. -/
def attemptsFor (key : String) (es : List Event) : List Request :=
  (es.filterMap Event.tried?).filter (·.isAlertFor key)

/-- The attempts for a key that came to an end, in the order of their ends. -/
def endsFor (key : String) (es : List Event) : List (Request × Bool) :=
  (es.filterMap Event.ended?).filter (·.1.isAlertFor key)

/-- A request's part in what concerns a key: none unless it is an alert for it. -/
def part (key : String) (r : Request) : List Request := [r].filter (·.isAlertFor key)

variable (key : String)

theorem attemptsFor_append (es fs : List Event) :
    attemptsFor key (es ++ fs) = attemptsFor key es ++ attemptsFor key fs := by
  rw [attemptsFor, List.filterMap_append, List.filter_append]
  rfl

theorem endsFor_append (es fs : List Event) :
    endsFor key (es ++ fs) = endsFor key es ++ endsFor key fs := by
  rw [endsFor, List.filterMap_append, List.filter_append]
  rfl

/-- Nothing was tried for the key, and nothing came to an end. -/
def Untried (es : List Event) : Prop := attemptsFor key es = [] ∧ endsFor key es = []

/-- Some requests were tried for the key, and came to an end one after the other. -/
def Tried (es : List Event) (rs : List Request) : Prop :=
  attemptsFor key es = rs ∧ (endsFor key es).map Prod.fst = rs

variable {key}

theorem Untried.tried {es : List Event} (h : Untried key es) : Tried key es [] := by
  obtain ⟨attempts, ends⟩ := h
  exact ⟨attempts, by rw [ends, List.map_nil]⟩

theorem Tried.append {es fs : List Event} {rs ts : List Request} (first : Tried key es rs)
    (second : Tried key fs ts) : Tried key (es ++ fs) (rs ++ ts) := by
  constructor
  · rw [attemptsFor_append, first.1, second.1]
  · rw [endsFor_append, List.map_append, first.2, second.2]

theorem untried_notices (key : String) (ns : List Notice) : Untried key (ns.map .noted) := by
  have none_tried : (ns.map Event.noted).filterMap Event.tried? = [] := by
    rw [List.filterMap_map, List.filterMap_eq_nil_iff]
    exact fun _ _ => rfl
  have none_ended : (ns.map Event.noted).filterMap Event.ended? = [] := by
    rw [List.filterMap_map, List.filterMap_eq_nil_iff]
    exact fun _ _ => rfl
  constructor
  · rw [attemptsFor, none_tried, List.filter_nil]
  · rw [endsFor, none_ended, List.filter_nil]

/-- The end of one attempt. -/
theorem map_fst_end (r : Request) (shown : Bool) :
    ([(r, shown)].filter (·.1.isAlertFor key)).map Prod.fst = part key r := by
  cases own : r.isAlertFor key <;> simp [part, own]

theorem tried_shownEntries (r : Request) (refusal? : Option PlatformError) :
    Tried key (shownEntries r refusal?) (part key r) := by
  cases refusal? with
  | none => exact ⟨rfl, map_fst_end r true⟩
  | some e => exact ⟨rfl, map_fst_end r false⟩

theorem untried_feedbackEntries (p : Playback) (tone? still? : Option PlatformError) :
    Untried key (feedbackEntries p tone? still?) := by
  cases tone? <;> cases still? <;> exact ⟨rfl, rfl⟩

theorem untried_deviceEntries (n : Nat) (fault? : Option String) :
    Untried key (deviceEntries n fault?) := by
  cases fault? <;> exact ⟨rfl, rfl⟩

namespace Desk

/-- The alerts of a key in the queue. -/
def waitingFor (d : Desk) (key : String) : List Request := d.queued.filter (·.isAlertFor key)

/-- The alert of a key whose client the worker waits for. -/
def runningFor (d : Desk) (key : String) : List Request :=
  (d.client?.map Prod.fst).toList.filter (·.isAlertFor key)

/-- What the foreground did for a key: these requests were tried, and those joined the queue. The
client that the worker waits for ran on. -/
structure Carries (key : String) (d after : Desk) (tried queued : List Request) : Prop where
  history : ∃ es, after.world.history = d.world.history ++ es ∧ Tried key es tried
  client? : after.client? = d.client?
  queue : after.waitingFor key = d.waitingFor key ++ queued

variable {d after later : Desk}

theorem Carries.trans {tried queued tried' queued' : List Request}
    (first : Carries key d after tried queued) (second : Carries key after later tried' queued') :
    Carries key d later (tried ++ tried') (queued ++ queued') := by
  obtain ⟨⟨es, grown, attempted⟩, client?, queue⟩ := first
  obtain ⟨⟨fs, grown', attempted'⟩, client?', queue'⟩ := second
  refine ⟨⟨es ++ fs, ?_, attempted.append attempted'⟩, client?'.trans client?, ?_⟩
  · rw [grown', grown, List.append_assoc]
  · rw [queue', queue, List.append_assoc]

theorem carries_enterAll (d : Desk) {es : List Event} (quiet : Untried key es) :
    Carries key d (d.enterAll es) [] [] :=
  ⟨⟨es, World.history_enterAll _ _, quiet.tried⟩, rfl, (List.append_nil _).symm⟩

theorem carries_noteAll (key : String) (d : Desk) (ns : List Notice) :
    Carries key d (d.noteAll ns) [] [] := by
  rw [noteAll_eq]
  exact carries_enterAll d (untried_notices key ns)

theorem carries_feedback (key : String) (d : Desk) (p : Playback) :
    Carries key d (d.feedback p).1 [] [] := by
  rw [feedback_eq]
  exact carries_enterAll d (untried_feedbackEntries _ _ _)

theorem untried_fallbackEntries (channel? : Option Channel) (r : Request) :
    Untried key (fallbackEntries channel? r) := by
  cases channel? with
  | none => exact ⟨rfl, rfl⟩
  | some c =>
    rw [fallbackEntries, replyEntries]
    split <;> exact ⟨rfl, rfl⟩

theorem tried_handoverEntries (d : Desk) (r : Request) :
    Tried key (d.handoverEntries r) (if 0 < d.room then [] else part key r) := by
  unfold handoverEntries
  split
  · exact ⟨rfl, rfl⟩
  · exact (untried_fallbackEntries _ r).tried.append (tried_shownEntries r _)

/-- With room a request joins the queue, without it is tried at once. -/
theorem carries_present (key : String) (d : Desk) (r : Request) :
    Carries key d (d.present .channelFirst r).1 (if 0 < d.room then [] else part key r)
      (if 0 < d.room then part key r else []) := by
  rw [present_eq]
  have client? : (d.offered r).client? = d.client? :=
    d.client?_mapChannel fun c => by rw [Channel.offer_eq]
  refine ⟨⟨_, World.history_enterAll _ _, tried_handoverEntries d r⟩, client?, ?_⟩
  have joined : (d.offered r).queued = d.queued ++ [r].take d.room := offeredAll_queued [r] d
  have same : ((d.offered r).enterAll (d.handoverEntries r)).waitingFor key =
      (d.offered r).waitingFor key := rfl
  rw [same, waitingFor, waitingFor, joined, List.filter_append]
  congr 1
  split
  next free => rw [List.take_of_length_le free, part]
  next full =>
    have none_left : d.room = 0 := by omega
    rw [none_left, List.take_zero, List.filter_nil]

/-- With permission an alert goes its way; tone and vibration add nothing to it. -/
theorem carries_dispatch (key : String) (d : Desk) (c : Capabilities) (s : Settings) (alert : Decision)
    (allowed : c.canNotify = true) :
    Carries key d (d.dispatch .channelFirst c s alert).1
      (if 0 < d.room then [] else part key alert.request)
      (if 0 < d.room then part key alert.request else []) := by
  have shown := carries_present key d alert.request
  cases sound : s.soundEnabled with
  | false => simpa [dispatch, allowed, sound] using shown
  | true =>
    have followed := shown.trans (carries_feedback key _ .detached)
    simpa [dispatch, allowed, sound] using followed

/-- The manual test is nothing to any key. -/
theorem carries_test (key : String) (d : Desk) (c : Capabilities) :
    Carries key d (d.test .channelFirst c).1 [] [] := by
  have nothing : part key .manualTest = [] := by simp [part, Request.manualTest_isAlertFor]
  cases allowed : c.canNotify with
  | false => simpa [test, allowed] using carries_feedback key d .confirmed
  | true =>
    have shown := carries_present key d .manualTest
    have followed := shown.trans (carries_feedback key _ .confirmed)
    simpa [test, allowed, nothing] using followed

theorem carries_poll (key : String) (d : Desk) : Carries key d d.poll.1 [] [] := by
  have collected : Carries key d d.collected [] [] := by
    refine ⟨⟨[], (List.append_nil _).symm, rfl, rfl⟩, d.client?_mapChannel fun _ => rfl, ?_⟩
    rw [waitingFor, collected_queued, waitingFor, List.append_nil]
  rw [poll_eq]
  exact collected.trans (carries_noteAll key _ _)

/-! ## Behind the foreground -/

/-- What was begun for a key was the first that waited, and what ended was running before. -/
def Passes (key : String) (d after : Desk) : Prop :=
  ∃ es, after.world.history = d.world.history ++ es ∧
    attemptsFor key es ++ after.waitingFor key = d.waitingFor key ∧
    (endsFor key es).map Prod.fst ++ after.runningFor key = d.runningFor key ++ attemptsFor key es

theorem passes_enterAll (d : Desk) (channel? : Option Channel) {es : List Event}
    (waited : attemptsFor key es ++ { d with channel? := channel? }.waitingFor key = d.waitingFor key)
    (ended : (endsFor key es).map Prod.fst ++ { d with channel? := channel? }.runningFor key =
      d.runningFor key ++ attemptsFor key es) :
    Passes key d ({ d with channel? := channel? }.enterAll es) :=
  ⟨es, World.history_enterAll _ _, waited, ended⟩

theorem Passes.refl (d : Desk) : Passes key d d :=
  ⟨[], (List.append_nil _).symm, rfl, (List.append_nil _).symm⟩

/-- Entries that are no attempt and no end, made while the queue and the client stay. -/
theorem passes_untried (d : Desk) (channel? : Option Channel) {es : List Event} (quiet : Untried key es)
    (queued : { d with channel? := channel? }.queued = d.queued)
    (client? : { d with channel? := channel? }.client? = d.client?) :
    Passes key d ({ d with channel? := channel? }.enterAll es) := by
  refine passes_enterAll d channel? ?_ ?_
  · rw [quiet.1, List.nil_append, waitingFor, queued, waitingFor]
  · rw [quiet.1, quiet.2, List.map_nil, List.nil_append, List.append_nil, runningFor, client?, runningFor]

theorem passes_begin (d : Desk) : Passes key d d.begin := by
  rcases d.begin_cases with ⟨same, -⟩ | ⟨c, channel, waiting, begun⟩
  · rw [same]
    exact .refl d
  · rw [begun]
    refine d.passes_untried _ ⟨rfl, rfl⟩ ?_ ?_
    · simp [queued, channel]
    · simp [client?, channel, Channel.client?, waiting]

/-- The first that waited is begun. If its client does not start, that is its end; else it runs. -/
theorem passes_take (d : Desk) : Passes key d d.take := by
  rcases d.take_cases with ⟨same, -⟩ | ⟨c, r, rest, channel, running, queue, taken⟩
  · rw [same]
    exact .refl d
  · have waited : d.waitingFor key = part key r ++ rest.filter (·.isAlertFor key) := by
      simp only [waitingFor, queued, channel, Option.map_some, Option.getD_some, queue, part]
      exact List.filter_append [r] rest
    have free : d.runningFor key = [] := by
      simp [runningFor, client?, channel, Channel.client?, running]
    rw [taken]
    cases d.world.delivery r with
    | ok status =>
      refine d.passes_enterAll _ waited.symm ?_
      rw [free]
      rfl
    | error fault =>
      refine d.passes_enterAll _ waited.symm ?_
      have still : { d with channel? := some { c with queue := rest } }.runningFor key = [] := by
        simp [runningFor, client?, Channel.client?, running]
      rw [free]
      simp only [Channel.launched, still, List.append_nil]
      exact map_fst_end r false

/-- The client that the worker waits for ends. -/
theorem passes_finish (d : Desk) : Passes key d d.finish := by
  rcases d.finish_cases with ⟨same, -⟩ | ⟨c, r, status, channel, busy, finished⟩
  · rw [same]
    exact .refl d
  · have running : d.runningFor key = part key r := by
      simp [runningFor, client?, channel, Channel.client?, busy, part]
    have split : exitEntries r status = [.exited r status] ++
        (if status.isSuccess then [] else [Notice.deliveryExited status]).map .noted := by
      cases succeeded : status.isSuccess <;> simp [exitEntries, succeeded]
    obtain ⟨none_tried, none_ended⟩ := untried_notices key
      (if status.isSuccess then [] else [.deliveryExited status])
    have tried : attemptsFor key (exitEntries r status) = [] := by
      rw [split, attemptsFor_append, none_tried]
      rfl
    have ended : (endsFor key (exitEntries r status)).map Prod.fst = part key r := by
      rw [split, endsFor_append, none_ended, List.append_nil]
      exact map_fst_end r status.isSuccess
    rw [finished]
    refine d.passes_enterAll _ ?_ ?_
    · rw [tried, List.nil_append, waitingFor, waitingFor]
      simp [queued, channel]
    · rw [tried, ended, running, List.append_nil]
      simp [runningFor, client?, Channel.client?]

theorem passes_stop (d : Desk) : Passes key d d.stop := by
  rcases d.stop_cases with ⟨same, -⟩ | ⟨c, channel, running, -, -, stopped⟩
  · rw [same]
    exact .refl d
  · rw [stopped]
    refine d.passes_untried _ ⟨rfl, rfl⟩ ?_ ?_
    · simp [queued, channel]
    · simp [client?, channel, Channel.client?, running]

theorem passes_hangUp (d : Desk) : Passes key d (d.mapChannel Channel.close) := by
  have same : (d.mapChannel Channel.close).queued = d.queued := by
    cases h : d.channel? <;> simp [mapChannel, queued, h, Channel.close]
  have quiet : Untried key [] := ⟨rfl, rfl⟩
  exact d.passes_untried _ quiet same (d.client?_mapChannel fun _ => rfl)

theorem passes_openTone (d : Desk) (n : Nat) : Passes key d (d.openTone n) := by
  rw [openTone_eq]
  split
  · exact d.passes_untried d.channel? (untried_deviceEntries n _) rfl rfl
  · exact .refl d

/-- The move is none that submits requests or collects reports. -/
def Move.isSide : Move → Bool
  | hangUp | begin | take | finish | stop | openTone _ => true
  | alert .. | test _ | poll => false

theorem passes_side (key : String) (d : Desk) (move : Move) (side : move.isSide = true) :
    Passes key d (move.apply d) := by
  cases move with
  | alert _ _ _ | test _ | poll => cases side
  | hangUp => exact d.passes_hangUp
  | begin => exact d.passes_begin
  | take => exact d.passes_take
  | finish => exact d.passes_finish
  | stop => exact d.passes_stop
  | openTone n => exact d.passes_openTone n

end Desk
end AlertRelay
