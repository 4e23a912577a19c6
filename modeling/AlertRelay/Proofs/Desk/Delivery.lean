import AlertRelay.Desk
import AlertRelay.Proofs.Channel.Room
import AlertRelay.Proofs.Journal

/-!
# What the desk enters in the journal

Each operation of the desk is a change of the channel together with a list of entries. A request
that may be shown goes one of two ways, which the room in the channel decides: it is queued, or it
is shown from the foreground with whatever answer the outside gives. Tone and vibration follow
without a say in that.
-/
namespace AlertRelay

/-- What is told of a failing call, if it failed. -/
def told (notice : PlatformError → Notice) (refusal? : Option PlatformError) : List Event :=
  (refusal?.map fun e => .noted (notice e)).toList

def shownEntries (r : Request) (refusal? : Option PlatformError) : List Event :=
  .notified r refusal? :: told (.notShown r.tag) refusal?

def feedbackEntries (p : Playback) (tone? still? : Option PlatformError) : List Event :=
  (.toned alertTone p tone? :: told .toneFailed tone?)
    ++ (.vibrated vibrationPattern still? :: told .vibrationFailed still?)

@[simp] theorem told_none (notice : PlatformError → Notice) : told notice none = [] := rfl

theorem filter_isCall_told (notice : PlatformError → Notice) (refusal? : Option PlatformError) :
    (told notice refusal?).filter Event.isCall = [] := by
  cases refusal? <;> rfl

theorem mem_told {notice : PlatformError → Notice} {refusal? : Option PlatformError} {event : Event} :
    event ∈ told notice refusal? ↔ ∃ e, refusal? = some e ∧ event = .noted (notice e) := by
  cases refusal? <;> simp [told]

theorem filter_isCall_shownEntries (r : Request) (refusal? : Option PlatformError) :
    (shownEntries r refusal?).filter Event.isCall = [.notified r refusal?] := by
  rw [shownEntries, List.filter_cons_of_pos rfl, filter_isCall_told]

theorem filter_isCall_feedbackEntries (p : Playback) (tone? still? : Option PlatformError) :
    (feedbackEntries p tone? still?).filter Event.isCall =
      [.toned alertTone p tone?, .vibrated vibrationPattern still?] := by
  rw [feedbackEntries, List.filter_append, List.filter_cons_of_pos rfl,
    List.filter_cons_of_pos rfl, filter_isCall_told, filter_isCall_told]
  rfl

/-- The request that was offered to the channel or to be shown, whatever came of it. -/
def Event.handed? : Event → Option Request
  | offered r _ | notified r _ => some r
  | _ => none

section

variable {P : Event → Prop} (noted : ∀ n, P (.noted n))

include noted

theorem forall_told (notice : PlatformError → Notice) (refusal? : Option PlatformError) :
    ∀ e ∈ told notice refusal?, P e := by
  cases refusal? <;> simp [told, noted]

/-- Feedback is the two calls and what is told of them. -/
theorem forall_feedbackEntries {p : Playback} (toned : ∀ answer, P (.toned alertTone p answer))
    (vibrated : ∀ answer, P (.vibrated vibrationPattern answer))
    (tone? still? : Option PlatformError) : ∀ e ∈ feedbackEntries p tone? still?, P e := by
  refine List.forall_mem_append.mpr ⟨?_, ?_⟩
  · exact List.forall_mem_cons.mpr ⟨toned tone?, forall_told noted _ _⟩
  · exact List.forall_mem_cons.mpr ⟨vibrated still?, forall_told noted _ _⟩

end

/-- How a request was handed over. -/
inductive Handover where
  | queued
  /-- Shown from the foreground, with the outside's answer. -/
  | foreground (refusal? : Option PlatformError)
  deriving DecidableEq, Repr

namespace Handover

def isQueued : Handover → Bool
  | queued => true
  | foreground _ => false

/-- Accepted or shown. -/
def isDelivered : Handover → Bool
  | queued => true
  | foreground refusal? => refusal?.isNone

/-- The calls that a handover consists of. A channel that does not take the request was asked. -/
def calls (registered : Bool) (r : Request) : Handover → List Event
  | queued => [.offered r true]
  | foreground refusal? => (if registered then [.offered r false] else []) ++ [.notified r refusal?]

end Handover

namespace Desk

def enterAll (d : Desk) (es : List Event) : Desk := { d with world := d.world.enterAll es }

@[simp] theorem enterAll_nil (d : Desk) : d.enterAll [] = d := rfl

@[simp] theorem enterAll_enterAll (d : Desk) (es fs : List Event) :
    (d.enterAll es).enterAll fs = d.enterAll (es ++ fs) := by
  simp only [enterAll, World.enterAll_enterAll]

@[simp] theorem enterAll_world (d : Desk) (es : List Event) :
    (d.enterAll es).world = d.world.enterAll es := rfl

@[simp] theorem enterAll_channel? (d : Desk) (es : List Event) :
    (d.enterAll es).channel? = d.channel? := rfl

theorem note_eq (d : Desk) (n : Notice) : d.note n = d.enterAll [.noted n] := rfl

theorem noteAll_eq (d : Desk) (ns : List Notice) : d.noteAll ns = d.enterAll (ns.map .noted) := by
  rw [noteAll, World.noteAll_eq]
  rfl

def mapChannel (d : Desk) (f : Channel → Channel) : Desk := { d with channel? := d.channel?.map f }

@[simp] theorem mapChannel_world (d : Desk) (f : Channel → Channel) :
    (d.mapChannel f).world = d.world := rfl

/-- The free slots of the channel; none without one. -/
def room (d : Desk) : Nat := (d.channel?.map Channel.room).getD 0

/-- The requests in the channel. -/
def queued (d : Desk) : List Request := (d.channel?.map Channel.queue).getD []

theorem room_of_channel {d : Desk} {c : Channel} (h : d.channel? = some c) : d.room = c.room := by
  simp [room, h]

/-! ## The foreground -/

theorem notify_eq (d : Desk) (r : Request) :
    d.notify r = (d.enterAll (shownEntries r (d.world.refusal? r)), (d.world.refusal? r).isNone) := by
  rw [notify, World.notify_eq]
  cases d.world.refusal? r with
  | none => rfl
  | some e => rfl

theorem feedback_eq (d : Desk) (p : Playback) :
    d.feedback p =
      (d.enterAll (feedbackEntries p (d.world.toneRefusal? alertTone p)
        (d.world.vibrationRefusal? vibrationPattern)),
        (d.world.toneRefusal? alertTone p).isNone) := by
  have unheard (es : List Event) (h : es.countP Event.isVibration = 0) :=
    World.vibrationRefusal?_enterAll d.world es vibrationPattern h
  simp only [feedback, World.tone_eq, World.vibrate_eq]
  cases d.world.toneRefusal? alertTone p with
  | none =>
    simp only [unheard [.toned alertTone p none] rfl]
    cases d.world.vibrationRefusal? vibrationPattern <;> rfl
  | some e =>
    simp only [note, World.note_eq, World.enterAll_enterAll,
      unheard ([.toned alertTone p (some e)] ++ [.noted (.toneFailed e)]) rfl]
    cases d.world.vibrationRefusal? vibrationPattern <;> rfl

/-- What is entered when the channel is asked. -/
def replyEntries (c : Channel) (r : Request) : List Event :=
  .offered r (0 < c.room) ::
    if 0 < c.room then []
    else [.noted (if c.worker = .gone then .channelUnattended c.scope else .channelFull c.scope)]

theorem offer_eq (d : Desk) (c : Channel) (r : Request) :
    d.offer c r =
      ({ d with channel? := some (c.offer r).1 }.enterAll (replyEntries c r), decide (0 < c.room)) := by
  by_cases free : 0 < c.room
  · simp only [offer, c.offer_of_room r free, replyEntries, free, decide_true]
    rfl
  · simp only [offer, c.offer_of_no_room r (by omega), replyEntries, free, decide_false]
    by_cases gone : c.worker = .gone
    · simp only [if_pos gone]
      rfl
    · simp only [if_neg gone]
      rfl

/-! ## Through the channel where there is room -/

/-- The way a request goes from here. -/
def handover (d : Desk) (r : Request) : Handover :=
  if 0 < d.room then .queued else .foreground (d.world.refusal? r)

/-- What is entered before a request falls back to the foreground. -/
def fallbackEntries (channel? : Option Channel) (r : Request) : List Event :=
  match channel? with
  | some c => replyEntries c r ++ [.noted (.fellBack r.tag)]
  | none => []

def handoverEntries (d : Desk) (r : Request) : List Event :=
  if 0 < d.room then [.offered r true]
  else fallbackEntries d.channel? r ++ shownEntries r (d.world.refusal? r)

/-- The desk with the request offered to its channel. -/
def offered (d : Desk) (r : Request) : Desk := d.mapChannel fun c => (c.offer r).1

theorem fallbackEntries_countP (channel? : Option Channel) (r : Request) :
    (fallbackEntries channel? r).countP Event.isNotification = 0 := by
  cases channel? with
  | none => rfl
  | some c =>
    simp only [fallbackEntries, replyEntries]
    split <;> rfl

theorem offered_of_no_room {d : Desk} (r : Request) (full : ¬ 0 < d.room) : d.offered r = d := by
  cases h : d.channel? with
  | none =>
    rw [offered, mapChannel, h, Option.map_none, ← h]
  | some c =>
    have no_room : c.room = 0 := by
      rw [room_of_channel h] at full
      omega
    rw [offered, mapChannel, h, Option.map_some, c.offer_of_no_room r no_room, ← h]

/-- Room decides: a request is queued, or shown after the channel was asked in vain. -/
theorem present_eq (d : Desk) (r : Request) :
    d.present .channelFirst r =
      ((d.offered r).enterAll (d.handoverEntries r), (d.handover r).isDelivered) := by
  by_cases free : 0 < d.room
  · rw [handoverEntries, handover, if_pos free, if_pos free]
    cases h : d.channel? with
    | none => simp [room, h] at free
    | some c =>
      rw [room_of_channel h] at free
      simp only [present, h, offer_eq, replyEntries, free, offered, mapChannel]
      rfl
  · rw [handoverEntries, handover, if_neg free, if_neg free, offered_of_no_room r free]
    cases h : d.channel? with
    | none => simp only [present, h, notify_eq, fallbackEntries, List.nil_append, Handover.isDelivered]
    | some c =>
      -- The entries of the vain offer are no notification, so the answer to the next one stands.
      have answer := World.refusal?_enterAll d.world (fallbackEntries (some c) r) r
        (fallbackEntries_countP (some c) r)
      have unchanged : d.offered r = d := offered_of_no_room r free
      rw [offered, mapChannel, h, Option.map_some] at unchanged
      rw [room_of_channel h] at free
      simp only [present, h, offer_eq, unchanged, free, decide_false, note_eq, enterAll_enterAll,
        notify_eq, enterAll_world, fallbackEntries] at answer ⊢
      rw [answer]
      rfl

/-- A handover is calls with the request and what is told of them. -/
theorem forall_handoverEntries {P : Event → Prop} {r : Request} (noted : ∀ n, P (.noted n))
    (handed : ∀ e : Event, e.handed? = some r → P e) (d : Desk) : ∀ e ∈ d.handoverEntries r, P e := by
  have shown : ∀ e ∈ shownEntries r (d.world.refusal? r), P e :=
    List.forall_mem_cons.mpr ⟨handed _ rfl, forall_told noted _ _⟩
  unfold handoverEntries
  split
  · exact List.forall_mem_singleton.mpr (handed _ rfl)
  · refine List.forall_mem_append.mpr ⟨?_, shown⟩
    cases d.channel? with
    | none => simp [fallbackEntries]
    | some c =>
      refine List.forall_mem_append.mpr ⟨?_, List.forall_mem_singleton.mpr (noted _)⟩
      refine List.forall_mem_cons.mpr ⟨handed _ rfl, ?_⟩
      split <;> simp [noted]

theorem filter_isCall_handoverEntries (d : Desk) (r : Request) :
    (d.handoverEntries r).filter Event.isCall = (d.handover r).calls d.isRegistered r := by
  unfold handoverEntries handover
  by_cases free : 0 < d.room
  · rw [if_pos free, if_pos free]
    rfl
  · rw [if_neg free, if_neg free, List.filter_append, filter_isCall_shownEntries, Handover.calls]
    congr 1
    cases h : d.channel? with
    | none => simp [fallbackEntries, isRegistered, h]
    | some c =>
      have full : ¬ 0 < c.room := room_of_channel h ▸ free
      simp only [fallbackEntries, replyEntries, isRegistered, h, full, decide_false, if_false]
      rfl

theorem withheld_notMem_handoverEntries (d : Desk) (r : Request) (key : String) :
    .noted (.withheld key) ∉ d.handoverEntries r := by
  have plain (c : Channel) : .noted (.withheld key) ∉ replyEntries c r := by
    unfold replyEntries
    split
    · simp
    · split <;> simp
  unfold handoverEntries
  split
  · simp
  · cases d.channel? <;> simp [fallbackEntries, plain, shownEntries, mem_told]

@[simp] theorem offered_world (d : Desk) (r : Request) : (d.offered r).world = d.world := rfl

@[simp] theorem offered_isRegistered (d : Desk) (r : Request) :
    (d.offered r).isRegistered = d.isRegistered := by
  simp [offered, mapChannel, isRegistered]

theorem offered_room (d : Desk) (r : Request) : (d.offered r).room = d.room - 1 := by
  cases h : d.channel? with
  | none => simp [offered, mapChannel, room, h]
  | some c => simp [offered, mapChannel, room, h, Channel.offer_room]

/-- A desk with requests offered to its channel one after the other. -/
def offeredAll (d : Desk) (rs : List Request) : Desk := rs.foldl offered d

theorem offeredAll_eq (rs : List Request) (d : Desk) :
    d.offeredAll rs = d.mapChannel fun c => c.offerAll rs := by
  induction rs generalizing d with
  | nil =>
    have same : (fun c : Channel => c.offerAll []) = id := by
      funext c
      simp [Channel.offerAll]
    rw [same, mapChannel, Option.map_id]
    rfl
  | cons r rs ih =>
    have tail := ih (d.offered r)
    rw [offeredAll, List.foldl_cons]
    refine tail.trans ?_
    simp only [offered, mapChannel, Option.map_map, Channel.offerAll_cons]
    rfl

theorem offeredAll_enterAll (rs : List Request) (d : Desk) (es : List Event) :
    (d.enterAll es).offeredAll rs = (d.offeredAll rs).enterAll es := by
  rw [offeredAll_eq, offeredAll_eq]
  rfl

@[simp] theorem offeredAll_world (rs : List Request) (d : Desk) :
    (d.offeredAll rs).world = d.world := by
  rw [offeredAll_eq]
  rfl

theorem offeredAll_channel? (rs : List Request) {d : Desk} {c : Channel} (h : d.channel? = some c) :
    (d.offeredAll rs).channel? = some (c.offerAll rs) := by
  rw [offeredAll_eq, mapChannel, h]
  rfl

theorem offeredAll_room (rs : List Request) (d : Desk) :
    (d.offeredAll rs).room = d.room - rs.length := by
  cases h : d.channel? with
  | none => simp [offeredAll_eq, mapChannel, room, h]
  | some c => simp [room, offeredAll_channel? rs h, h, Channel.offerAll_room]

/-- The channel takes requests until it is full, in their order. -/
theorem offeredAll_queued (rs : List Request) (d : Desk) :
    (d.offeredAll rs).queued = d.queued ++ rs.take d.room := by
  cases h : d.channel? with
  | none => simp [offeredAll_eq, mapChannel, queued, room, h]
  | some c => simp [queued, room, offeredAll_channel? rs h, h, Channel.offerAll]

end Desk
end AlertRelay
