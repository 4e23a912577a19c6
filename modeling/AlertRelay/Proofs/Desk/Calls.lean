import AlertRelay.Proofs.Desk.Submission

/-!
# Which calls the desk makes

A request is offered or shown only where notifications are allowed, and tone and vibration follow
an alert only where sound is on. Everything else that the foreground does at the desk is told and
calls nothing, but for the one try to install the channel.
-/
namespace AlertRelay

namespace Event

/-- A request was offered to the channel or to be shown from the foreground. -/
def isHandover : Event → Bool
  | offered .. | notified .. => true
  | _ => false

def isFeedback : Event → Bool
  | toned .. | vibrated .. => true
  | _ => false

def isSurvey : Event → Bool
  | surveyed _ => true
  | _ => false

/-- What may be entered where requests may be handed over, or not, and sounded, or not. -/
def isUnder (allowed sound : Bool) : Event → Bool
  | noted _ => true
  | offered .. | notified .. => allowed
  | toned .. | vibrated .. => sound
  | _ => false

theorem isUnder_of_handed {sound : Bool} {e : Event} {r : Request} (h : e.handed? = some r) :
    e.isUnder true sound = true := by
  cases e <;> first | rfl | cases h

theorem isUnder_of_isFeedback {allowed : Bool} {e : Event} (h : e.isFeedback = true) :
    e.isUnder allowed true = true := by
  cases e <;> first | rfl | cases h

theorem of_isUnder {allowed sound : Bool} {e : Event} (h : e.isUnder allowed sound = true) :
    (e.isHandover = true → allowed = true) ∧ (e.isFeedback = true → sound = true) ∧
      e.isSurvey = false := by
  cases e <;> simp_all [isUnder, isHandover, isFeedback, isSurvey]

end Event

namespace World

/-- The journal grew, and only by what was allowed. -/
def Enters (allowed : Event → Bool) (w v : World) : Prop :=
  ∃ es, v.history = w.history ++ es ∧ ∀ e ∈ es, allowed e = true

variable {allowed allowed' : Event → Bool} {w v u : World}

theorem Enters.refl (w : World) : w.Enters allowed w := ⟨[], by simp, by simp⟩

theorem Enters.trans (first : w.Enters allowed v) (second : v.Enters allowed u) :
    w.Enters allowed u := by
  obtain ⟨es, grown, fine⟩ := first
  obtain ⟨fs, grown', fine'⟩ := second
  exact ⟨es ++ fs, by rw [grown', grown, List.append_assoc], List.forall_mem_append.mpr ⟨fine, fine'⟩⟩

theorem Enters.mono (h : w.Enters allowed v) (wider : ∀ e, allowed e = true → allowed' e = true) :
    w.Enters allowed' v := by
  obtain ⟨es, grown, fine⟩ := h
  exact ⟨es, grown, fun e member => wider e (fine e member)⟩

theorem enters_enterAll (w : World) (es : List Event) (fine : ∀ e ∈ es, allowed e = true) :
    w.Enters allowed (w.enterAll es) := ⟨es, history_enterAll w es, fine⟩

/-- What was entered is what the journal holds beyond its old part. -/
theorem Enters.since (h : w.Enters allowed v) :
    v.history = w.history ++ w.since v ∧ ∀ e ∈ w.since v, allowed e = true := by
  obtain ⟨es, grown, fine⟩ := h
  rw [since_of_history grown]
  exact ⟨grown, fine⟩

theorem Enters.since_trans (first : w.Enters allowed v) (second : v.Enters allowed' u) :
    w.since u = w.since v ++ v.since u := by
  obtain ⟨grown, -⟩ := first.since
  obtain ⟨grown', -⟩ := second.since
  refine since_of_history ?_
  rw [grown', ← List.append_assoc, ← grown]

end World

namespace Desk

open World (Enters enters_enterAll)

theorem notices_under (ns : List Notice) (allowed sound : Bool) :
    ∀ e ∈ ns.map Event.noted, e.isUnder allowed sound = true := by
  simp [Event.isUnder]

section

variable {allowed : Event → Bool} (noted : ∀ n, allowed (.noted n) = true)

include noted

theorem present_enters {r : Request} (handed : ∀ e, e.handed? = some r → allowed e = true)
    (d : Desk) : d.world.Enters allowed (d.present .channelFirst r).1.world := by
  rw [present_eq]
  exact enters_enterAll d.world _ (forall_handoverEntries noted handed d)

theorem feedback_enters (heard : ∀ e, e.isFeedback = true → allowed e = true) (d : Desk)
    (p : Playback) : d.world.Enters allowed (d.feedback p).1.world := by
  rw [feedback_eq]
  exact enters_enterAll d.world _
    (forall_feedbackEntries noted (fun _ => heard _ rfl) (fun _ => heard _ rfl) _ _)

theorem dispatch_enters {c : Capabilities} {s : Settings} {alert : Decision}
    (handed : c.canNotify = true → ∀ e, e.handed? = some alert.request → allowed e = true)
    (heard : c.canNotify = true → s.soundEnabled = true → ∀ e, e.isFeedback = true → allowed e = true)
    (d : Desk) : d.world.Enters allowed (d.dispatch .channelFirst c s alert).1.world := by
  cases able : c.canNotify with
  | false =>
    simp only [dispatch, able]
    exact enters_enterAll d.world [.noted (.withheld alert.key)] (by simp [noted])
  | true =>
    have shown := present_enters noted (handed able) d
    cases sound : s.soundEnabled with
    | false => simpa [dispatch, able, sound] using shown
    | true =>
      have followed := shown.trans (feedback_enters noted (heard able sound)
        (d.present .channelFirst alert.request).1 .detached)
      simpa [dispatch, able, sound] using followed

/-- Alerts enter what each of them may. -/
theorem dispatchAll_enters {c : Capabilities} {s : Settings} (ds : List Decision)
    (handed : c.canNotify = true → ∀ alert ∈ ds, ∀ e,
      e.handed? = some alert.request → allowed e = true)
    (heard : c.canNotify = true → s.soundEnabled = true → ∀ e, e.isFeedback = true → allowed e = true)
    (d : Desk) : d.world.Enters allowed (d.dispatchAll c s ds).1.world := by
  induction ds generalizing d with
  | nil => exact .refl d.world
  | cons alert rest ih =>
    have first := dispatch_enters noted (fun able => handed able alert (by simp)) heard d
    exact first.trans (ih (fun able other member => handed able other (by simp [member])) _)

/-- Sound is tried by a test whether or not anything may be shown. -/
theorem test_enters {c : Capabilities}
    (handed : c.canNotify = true → ∀ e, e.handed? = some .manualTest → allowed e = true)
    (heard : ∀ e, e.isFeedback = true → allowed e = true) (d : Desk) :
    d.world.Enters allowed (d.test .channelFirst c).1.world := by
  cases able : c.canNotify with
  | false => simpa [test, able] using feedback_enters noted heard d .confirmed
  | true =>
    have followed := (present_enters noted (handed able) d).trans
      (feedback_enters noted heard (d.present .channelFirst .manualTest).1 .confirmed)
    simpa [test, able] using followed

end

theorem dispatchAll_under (ds : List Decision) (d : Desk) (c : Capabilities) (s : Settings) :
    d.world.Enters (Event.isUnder c.canNotify (c.canNotify && s.soundEnabled))
      (d.dispatchAll c s ds).1.world := by
  refine dispatchAll_enters (fun _ => rfl) ds (fun able _ _ _ handed => ?_) (fun able sound _ heard => ?_) d
  · rw [able]
    exact Event.isUnder_of_handed handed
  · rw [able, sound]
    exact Event.isUnder_of_isFeedback heard

theorem test_under (d : Desk) (c : Capabilities) :
    d.world.Enters (Event.isUnder c.canNotify true) (d.test .channelFirst c).1.world := by
  refine test_enters (fun _ => rfl) (fun able _ handed => ?_) (fun _ => Event.isUnder_of_isFeedback) d
  rw [able]
  exact Event.isUnder_of_handed handed

end Desk
end AlertRelay
