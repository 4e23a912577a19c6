import AlertRelay.Channel

/-!
# Room in the background channel

How many more requests a channel takes decides every offer: with room the request goes to the end
of the queue, without room the channel stays as it is.
-/
namespace AlertRelay.Channel

/-- The free slots; none when nobody holds the receiving end. -/
def room (c : Channel) : Nat := if c.worker = .gone then 0 else c.capacity - c.queue.length

theorem room_pos_iff (c : Channel) :
    0 < c.room ↔ c.worker ≠ .gone ∧ c.queue.length < c.capacity := by
  unfold room
  by_cases gone : c.worker = .gone
  · simp [gone]
  · simp only [gone, if_false, ne_eq, not_false_eq_true, true_and]
    omega

theorem offer_of_room (c : Channel) (r : Request) (h : 0 < c.room) :
    c.offer r = ({ c with queue := c.queue ++ [r] }, .accepted) := by
  obtain ⟨alive, free⟩ := (room_pos_iff c).mp h
  simp only [offer, if_neg alive, if_pos free]

theorem offer_of_no_room (c : Channel) (r : Request) (h : c.room = 0) :
    c.offer r = (c, if c.worker = .gone then .unattended else .full) := by
  have refused : ¬ (c.worker ≠ .gone ∧ c.queue.length < c.capacity) := by
    rw [← room_pos_iff]
    omega
  unfold offer
  by_cases gone : c.worker = .gone
  · simp only [gone, if_true]
  · have full : ¬ c.queue.length < c.capacity := fun free => refused ⟨gone, free⟩
    simp only [gone, full, if_false]

theorem offer_eq (c : Channel) (r : Request) :
    (c.offer r).1 = { c with queue := c.queue ++ [r].take c.room } := by
  by_cases h : 0 < c.room
  · rw [offer_of_room c r h, List.take_of_length_le h]
  · have full : c.room = 0 := by omega
    rw [offer_of_no_room c r full, full, List.take_zero, List.append_nil]

/-- A channel after requests were offered to it one after the other. -/
def offerAll (c : Channel) (rs : List Request) : Channel :=
  { c with queue := c.queue ++ rs.take c.room }

theorem offerAll_room (c : Channel) (rs : List Request) :
    (c.offerAll rs).room = c.room - rs.length := by
  have taken : (rs.take c.room).length = min c.room rs.length := List.length_take
  unfold offerAll
  unfold room at taken ⊢
  by_cases gone : c.worker = .gone
  · simp only [gone, if_true, Nat.zero_sub]
  · simp only [gone, if_false, List.length_append] at taken ⊢
    omega

theorem offer_room (c : Channel) (r : Request) : (c.offer r).1.room = c.room - 1 := by
  rw [offer_eq]
  exact offerAll_room c [r]

theorem offerAll_cons (c : Channel) (r : Request) (rs : List Request) :
    c.offerAll (r :: rs) = (c.offer r).1.offerAll rs := by
  rw [offerAll, offerAll, offer_room, offer_eq]
  cases c.room with
  | zero => simp
  | succ n => simp

/-! ## The other end -/

theorem begin?_eq_some {c next : Channel} (begun : c.begin? = some next) :
    c.worker = .waiting ∧
      next = { c with worker := .running, unread := c.unread ++ lifecycle } := by
  unfold begin? at begun
  split at begun
  next waiting =>
    cases begun
    exact ⟨waiting, rfl⟩
  next => cases begun

theorem take?_eq_some {c next : Channel} {r : Request} (taken : c.take? = some (r, next)) :
    c.worker = .running ∧ ∃ rest, c.queue = r :: rest ∧ next = { c with queue := rest } := by
  unfold take? at taken
  split at taken
  next first rest running queue =>
    cases taken
    exact ⟨running, rest, queue, rfl⟩
  next => cases taken

theorem finish?_eq_some {c next : Channel} {r : Request} {status : ExitStatus}
    (finished : c.finish? = some (r, status, next)) :
    c.worker = .busy r status ∧ next = { c with worker := .running } := by
  unfold finish? at finished
  split at finished
  next r status busy =>
    cases finished
    exact ⟨busy, rfl⟩
  next => cases finished

theorem stop?_eq_some {c next : Channel} (stopped : c.stop? = some next) :
    c.worker = .running ∧ c.queue = [] ∧ c.closed = true ∧ next = { c with worker := .gone } := by
  unfold stop? at stopped
  split at stopped
  next possible =>
    cases stopped
    exact ⟨possible.1, possible.2.1, possible.2.2, rfl⟩
  next => cases stopped

end AlertRelay.Channel
