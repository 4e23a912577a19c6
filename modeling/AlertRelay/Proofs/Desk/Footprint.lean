import AlertRelay.Proofs.Desk.Background

/-!
# What the desk leaves alone

Getting alerts out never asks for permission and never saves, whatever the channel, the surroundings
and the worker do. So the answers that the next prompts and saves will get stay what they were.
-/
namespace AlertRelay

/-- No prompt and no save. -/
def Event.isAside : Event → Bool
  | prompted _ | saved .. => false
  | _ => true

namespace World

/-- The answer to the prompt after the next `n`. -/
def laterPrompt (w : World) (n : Nat) : Except PlatformError Permission :=
  w.outside.platform.prompt (w.count Event.isPrompt + n)

/-- The fault of the save after the next `n`, where the disk would take it. -/
def laterFault (w : World) (n : Nat) : Option SaveFault :=
  w.outside.saveFault (w.count Event.isSave + n)

/-- Nothing happened but entries, none of them a prompt or a save. -/
def Aside (w v : World) : Prop := ∃ es : List Event, v = w.enterAll es ∧ ∀ e ∈ es, e.isAside = true

theorem Aside.refl (w : World) : w.Aside w := ⟨[], rfl, by simp⟩

theorem Aside.trans {w v u : World} (first : w.Aside v) (second : v.Aside u) : w.Aside u := by
  obtain ⟨es, rfl, quiet⟩ := first
  obtain ⟨fs, rfl, quiet'⟩ := second
  exact ⟨es ++ fs, enterAll_enterAll w es fs, List.forall_mem_append.mpr ⟨quiet, quiet'⟩⟩

variable {w v : World}

theorem Aside.outside (h : w.Aside v) : v.outside = w.outside := by
  obtain ⟨es, rfl, -⟩ := h
  exact outside_enterAll w es

theorem Aside.disk (h : w.Aside v) : v.disk = w.disk := by
  obtain ⟨es, rfl, -⟩ := h
  exact disk_enterAll w es

theorem Aside.laterPrompt (h : w.Aside v) : v.laterPrompt = w.laterPrompt := by
  obtain ⟨es, rfl, quiet⟩ := h
  have unasked : es.countP Event.isPrompt = 0 := by
    rw [List.countP_eq_zero]
    intro e member
    have aside := quiet e member
    cases e <;> simp_all [Event.isAside, Event.isPrompt]
  funext n
  rw [World.laterPrompt, World.laterPrompt, outside_enterAll, count_enterAll, unasked, Nat.add_zero]

theorem Aside.laterFault (h : w.Aside v) : v.laterFault = w.laterFault := by
  obtain ⟨es, rfl, quiet⟩ := h
  have unsaved : es.countP Event.isSave = 0 := by
    rw [List.countP_eq_zero]
    intro e member
    have aside := quiet e member
    cases e <;> simp_all [Event.isAside, Event.isSave]
  funext n
  rw [World.laterFault, World.laterFault, outside_enterAll, count_enterAll, unsaved, Nat.add_zero]

end World

theorem notices_aside (ns : List Notice) : ∀ e ∈ ns.map Event.noted, e.isAside = true := by
  simp [Event.isAside]

namespace Desk

theorem aside_enterAll (d : Desk) {es : List Event} (quiet : ∀ e ∈ es, e.isAside = true) :
    d.world.Aside (d.enterAll es).world := ⟨es, rfl, quiet⟩

theorem present_aside (d : Desk) (r : Request) :
    d.world.Aside (d.present .channelFirst r).1.world := by
  rw [present_eq]
  refine ⟨_, rfl, forall_handoverEntries (fun _ => rfl) ?_ d⟩
  intro e handed
  cases e <;> first | rfl | cases handed

theorem feedback_aside (d : Desk) (p : Playback) : d.world.Aside (d.feedback p).1.world := by
  rw [feedback_eq]
  exact aside_enterAll d
    (forall_feedbackEntries (fun _ => rfl) (fun _ => rfl) (fun _ => rfl) _ _)

theorem dispatch_aside (d : Desk) (c : Capabilities) (s : Settings) (alert : Decision) :
    d.world.Aside (d.dispatch .channelFirst c s alert).1.world := by
  unfold dispatch
  split
  · exact aside_enterAll d (notices_aside [.withheld alert.key])
  · have shown := present_aside d alert.request
    simp only
    split
    · exact shown.trans (feedback_aside _ _)
    · exact shown

theorem dispatchAll_aside (ds : List Decision) (d : Desk) (c : Capabilities) (s : Settings) :
    d.world.Aside (d.dispatchAll c s ds).1.world := by
  induction ds generalizing d with
  | nil => exact .refl d.world
  | cons alert rest ih => exact (dispatch_aside d c s alert).trans (ih _)

theorem test_aside (d : Desk) (c : Capabilities) : d.world.Aside (d.test .channelFirst c).1.world := by
  cases allowed : c.canNotify with
  | false => simpa [test, allowed] using feedback_aside d .confirmed
  | true =>
    have followed := (present_aside d .manualTest).trans (feedback_aside _ .confirmed)
    simpa [test, allowed] using followed

theorem registrationEntries_aside (d : Desk) (c : Capabilities) (scope : String) :
    ∀ e ∈ d.registrationEntries c scope, e.isAside = true := by
  unfold registrationEntries
  cases d.world.installation scope <;> cases c.apiAvailable <;> cases c.secureContext <;>
    simp [Event.isAside]

theorem register_aside (d : Desk) (c : Capabilities) (scope : String) :
    d.world.Aside (d.register c scope).1.world := by
  cases tried : d.attempted with
  | true =>
    rw [register_again c scope tried]
    exact .refl d.world
  | false =>
    rw [register_eq c scope tried]
    exact ⟨_, rfl, registrationEntries_aside d c scope⟩

/-! ## Behind the foreground -/

theorem Backstage.aside {d after : Desk} (h : d.Backstage after) : d.world.Aside after.world := by
  obtain ⟨es, grown, fine⟩ := h.world
  refine ⟨es, grown, fun e member => ?_⟩
  have background := fine e member
  cases e <;> first | rfl | cases background

theorem windUp_aside (d : Desk) : d.world.Aside d.windUp.world := by
  have settled := settle_backstage { d with channel? := d.channel?.map Channel.close }
  exact (settled.trans (stop_backstage _)).aside

end Desk
end AlertRelay
