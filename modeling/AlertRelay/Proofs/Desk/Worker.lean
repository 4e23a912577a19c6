import AlertRelay.Proofs.Desk.Shift

/-!
# What becomes of accepted requests

Once the foreground is gone a worker that is let run comes to its end, and an account that holds in
every reachable state says what it has done by then: it attempted every request that was accepted,
once and in order, whichever of the clients failed.
-/
namespace AlertRelay

/-- The worker has begun or can begin. -/
def Worker.isManned : Worker → Bool
  | idle | gone => false
  | waiting | running | busy .. => true

namespace Desk

/-! ## The worker left to run -/

def turns (n : Nat) : List Move := (List.replicate n [Move.take, .finish]).flatten

theorem after_turns (n : Nat) (d : Desk) : d.after (turns n) = n.repeat takeNext d := by
  induction n with
  | zero => rfl
  | succ n ih =>
    have split : turns (n + 1) = turns n ++ [.take, .finish] := by
      simp [turns, List.replicate_succ']
    rw [split, after_append, ih]
    rfl

/-- The moves by which the foreground goes and the worker runs out. -/
def windingUp (d : Desk) : List Move :=
  [.hangUp, .begin, .finish] ++ turns (d.mapChannel Channel.close).begin.finish.backlog ++ [.stop]

theorem after_windingUp (d : Desk) :
    d.after (windingUp d) = (d.mapChannel Channel.close).settle.stop := by
  have opened : d.after [.hangUp, .begin, .finish] = (d.mapChannel Channel.close).begin.finish := rfl
  rw [windingUp, after_append, after_append, opened, after_turns]
  rfl

/-- Winding up a desk is one order of those moves. -/
theorem windUp_world (d : Desk) : d.windUp.world = (d.after (windingUp d)).world := by
  rw [after_windingUp]
  rfl

/-- A turn of a free worker takes the oldest request, whatever comes of it. -/
theorem takeNext_channel? {d : Desk} {c : Channel} (h : d.channel? = some c)
    (running : c.worker = .running) : d.takeNext.channel? = some { c with queue := c.queue.tail } := by
  rcases d.take_cases with ⟨same, idle⟩ | ⟨c', r, rest, channel, -, queue, taken⟩
  · have empty : { c with queue := c.queue.tail } = c := by
      rw [idle c h running, List.tail_nil, ← idle c h running]
    rw [takeNext, same, empty]
    rcases d.finish_cases with ⟨same, -⟩ | ⟨c', r, status, channel, busy, -⟩
    · rw [same, h]
    · cases h.symm.trans channel
      rw [running] at busy
      cases busy
  · cases h.symm.trans channel
    have after : d.take.channel? = some ({ c with queue := rest }.launched r (d.world.delivery r)) := by
      rw [taken]
      rfl
    rw [takeNext, queue, List.tail_cons]
    rcases d.take.finish_cases with ⟨same, free⟩ | ⟨c', r', status, channel, busy, finished⟩
    · rw [same, after]
      cases outcome : d.world.delivery r with
      | error fault => rfl
      | ok status => exact absurd rfl (free _ r status (outcome ▸ after))
    · have waited : c' = { c with queue := rest }.launched r (d.world.delivery r) :=
        Option.some.inj (channel.symm.trans after)
      rw [finished, enterAll_channel?, waited]
      cases d.world.delivery r with
      | ok status => simp only [Channel.launched, Channel.await, running]
      | error fault => simp only [Channel.launched, running]

theorem repeat_takeNext_channel? (n : Nat) {d : Desk} {c : Channel} (h : d.channel? = some c)
    (running : c.worker = .running) :
    (n.repeat takeNext d).channel? = some { c with queue := c.queue.drop n } := by
  induction n with
  | zero => exact h
  | succ n ih =>
    have next := takeNext_channel? ih running
    rw [List.tail_drop] at next
    exact next

/-- A worker that can run begins, or comes to the end of its client, and is ready for the queue. -/
theorem ready_channel? {d : Desk} {c : Channel} (h : d.channel? = some c)
    (manned : c.worker.isManned = true) :
    ∃ now, d.begin.finish.channel? = some now ∧ now.worker = .running ∧ now.closed = c.closed := by
  rcases d.begin_cases with ⟨same, begun⟩ | ⟨c', channel, -, began⟩
  · rw [same]
    rcases d.finish_cases with ⟨same, free⟩ | ⟨c', r, status, channel, -, finished⟩
    · rw [same]
      refine ⟨c, h, ?_, rfl⟩
      cases worker : c.worker with
      | running => rfl
      | idle | gone => simp [worker, Worker.isManned] at manned
      | waiting => exact absurd worker (begun c h)
      | busy r status => exact absurd worker (free c r status h)
    · cases h.symm.trans channel
      rw [finished]
      exact ⟨_, rfl, rfl, rfl⟩
  · cases h.symm.trans channel
    have after : d.begin.channel? = some { c with
        worker := .running
        unread := c.unread ++ lifecycle } := by
      rw [began]
      rfl
    rcases d.begin.finish_cases with ⟨same, -⟩ | ⟨c', r, status, channel, busy, -⟩
    · rw [same]
      exact ⟨_, after, rfl, rfl⟩
    · cases after.symm.trans channel
      cases busy

/-- A worker that can run shows everything queued. -/
theorem settle_channel? {d : Desk} {c : Channel} (h : d.channel? = some c)
    (manned : c.worker.isManned = true) :
    ∃ after, d.settle.channel? = some after ∧ after.worker = .running ∧ after.queue = [] ∧
      after.closed = c.closed := by
  obtain ⟨now, channel, running, closed⟩ := ready_channel? h manned
  have turned := repeat_takeNext_channel? d.begin.finish.backlog channel running
  have all : d.begin.finish.backlog = now.queue.length := by simp [backlog, channel]
  rw [all, List.drop_length] at turned
  refine ⟨{ now with queue := [] }, ?_, running, rfl, closed⟩
  rw [settle, all]
  exact turned

theorem settle_of_gone {d : Desk} {c : Channel} (h : d.channel? = some c) (gone : c.worker = .gone)
    (empty : c.queue = []) : d.settle = d := by
  have begun : d.begin = d := by
    rcases d.begin_cases with ⟨same, -⟩ | ⟨c', channel, waiting, -⟩
    · exact same
    · cases h.symm.trans channel
      rw [gone] at waiting
      cases waiting
  have finished : d.finish = d := by
    rcases d.finish_cases with ⟨same, -⟩ | ⟨c', r, status, channel, busy, -⟩
    · exact same
    · cases h.symm.trans channel
      rw [gone] at busy
      cases busy
  have none_left : d.backlog = 0 := by simp [backlog, h, empty]
  rw [settle, begun, finished, none_left]
  rfl

/-- Let run, the worker comes to its end. -/
theorem windingUp_gone {w : World} {c : Channel} {d : Desk} (h : Kept w c d) :
    ∃ c, Kept w c (d.after (windingUp d)) ∧ c.worker = .gone := by
  obtain ⟨last, kept⟩ := after_kept (windingUp d) ⟨c, h⟩
  refine ⟨last, kept, ?_⟩
  have closed : (d.mapChannel Channel.close).channel? = some c.close := by
    simp [mapChannel, h.channel]
  rw [after_windingUp] at kept
  -- A worker that stopped before has left nothing to do; any other empties the queue and finds the
  -- end closed.
  by_cases gone : c.worker = .gone
  · rw [settle_of_gone closed gone (h.gone gone).2] at kept
    rcases (d.mapChannel Channel.close).stop_cases with ⟨same, -⟩ | ⟨c', channel, running, -⟩
    · rw [same] at kept
      cases closed.symm.trans kept.channel
      exact gone
    · cases closed.symm.trans channel
      rw [show c.worker = .running from running] at gone
      cases gone
  · have manned : c.close.worker.isManned = true := by
      have staffed := h.staffed
      cases worker : c.worker <;> simp_all [Channel.close, Worker.isManned]
    obtain ⟨after, settled, running, empty, shut⟩ := settle_channel? closed manned
    rcases (d.mapChannel Channel.close).settle.stop_cases with ⟨-, idle⟩ | ⟨c', -, -, -, -, stopped⟩
    · exact absurd ⟨running, empty, shut⟩ (idle after settled)
    · rw [stopped] at kept
      cases kept.channel
      rfl

/-! ## The account -/

/-- How a desk and its worker stand: `c` is the channel they share. -/
structure Accounted (w : World) (c : Channel) (d : Desk) : Prop where
  channel : d.channel? = some c
  /-- Taken, then queued: these are the accepted requests, in order and unchanged. -/
  account : acceptedIn (w.since d.world) = attemptedIn (w.since d.world) ++ c.queue
  bounded : c.queue.length ≤ Desktop.capacity
  offer_iff : ∀ r, (d.offer c r).2 = true ↔
    c.worker ≠ .gone ∧ c.queue.length < Desktop.capacity
  offer_accepted : ∀ r, (d.offer c r).2 = true →
    (d.offer c r).1.channel? = some { c with queue := c.queue ++ [r] }
  offer_refused : ∀ r, (d.offer c r).2 = false → (d.offer c r).1.channel? = some c
  /-- The oldest request is taken and attempted. A client that does not start leaves the worker free,
  one that does it waits for. -/
  launch : ∀ r rest, c.worker = .running → c.queue = r :: rest → ∃ next,
    d.take.channel? = some next ∧ next.queue = rest ∧
      attemptedIn (w.since d.take.world) = attemptedIn (w.since d.world) ++ [r] ∧
      next.worker = match d.world.delivery r with
        | .ok status => .busy r status
        | .error _ => .running
  /-- However a client ends, the worker is free and goes on. -/
  finish : ∀ r status, c.worker = .busy r status →
    d.finish.channel? = some { c with worker := .running } ∧
      attemptedIn (w.since d.finish.world) = attemptedIn (w.since d.world)
  stopped : c.worker = .gone → c.closed = true ∧ c.queue = [] ∧
    attemptedIn (w.since d.world) = acceptedIn (w.since d.world)
  /-- Let run after the foreground is gone, the worker stops with everything attempted. -/
  runs_out : attemptedIn (w.since d.windUp.world) = acceptedIn (w.since d.windUp.world)

section

variable {w : World} {c : Channel} {d : Desk}

theorem Kept.stopped (h : Kept w c d) (gone : c.worker = .gone) :
    c.closed = true ∧ c.queue = [] ∧ attemptedIn (w.since d.world) = acceptedIn (w.since d.world) := by
  obtain ⟨closed, empty⟩ := h.gone gone
  refine ⟨closed, empty, ?_⟩
  rw [h.account, empty, List.append_nil]

theorem Kept.runs_out (h : Kept w c d) :
    attemptedIn (w.since d.windUp.world) = acceptedIn (w.since d.windUp.world) := by
  obtain ⟨last, kept, gone⟩ := windingUp_gone h
  rw [windUp_world]
  exact (kept.stopped gone).2.2

theorem Kept.room (h : Kept w c d) :
    0 < c.room ↔ c.worker ≠ .gone ∧ c.queue.length < Desktop.capacity := by
  rw [Channel.room_pos_iff, h.capacity]

theorem Kept.launch (h : Kept w c d) {r : Request} {rest : List Request}
    (running : c.worker = .running) (queue : c.queue = r :: rest) :
    ∃ next, d.take.channel? = some next ∧ next.queue = rest ∧
      attemptedIn (w.since d.take.world) = attemptedIn (w.since d.world) ++ [r] ∧
      next.worker = match d.world.delivery r with
        | .ok status => .busy r status
        | .error _ => .running := by
  rcases d.take_cases with ⟨-, idle⟩ | ⟨c', r', rest', channel, -, queue', taken⟩
  · rw [idle c h.channel running] at queue
    cases queue
  · cases h.channel.symm.trans channel
    cases queue.symm.trans queue'
    obtain ⟨-, attempts⟩ := h.since (launchEntries r (d.world.delivery r))
    rw [taken]
    refine ⟨_, rfl, Channel.launched_queue _ _ _, ?_, ?_⟩
    · exact attempts.trans (congrArg _ (launchEntries_attempt _ _).2)
    · cases d.world.delivery r with
      | ok status => rfl
      | error fault => exact running

theorem Kept.finish (h : Kept w c d) {r : Request} {status : ExitStatus}
    (busy : c.worker = .busy r status) :
    d.finish.channel? = some { c with worker := .running } ∧
      attemptedIn (w.since d.finish.world) = attemptedIn (w.since d.world) := by
  rcases d.finish_cases with ⟨-, free⟩ | ⟨c', r', status', channel, -, finished⟩
  · exact absurd busy (free c r status h.channel)
  · cases h.channel.symm.trans channel
    obtain ⟨-, attempts⟩ := h.since (exitEntries r' status')
    rw [(exitEntries_quiet r' status').2, List.append_nil] at attempts
    rw [finished]
    exact ⟨rfl, attempts⟩

theorem Kept.accounted (h : Kept w c d) : Accounted w c d := by
  have answer (r : Request) : (d.offer c r).2 = decide (0 < c.room) := by rw [offer_eq]
  have channel (r : Request) : (d.offer c r).1.channel? =
      some { c with queue := c.queue ++ [r].take c.room } := by
    rw [offer_eq, ← Channel.offer_eq]
    rfl
  refine ⟨h.channel, h.account, h.bounded, ?_, ?_, ?_, fun _ _ => h.launch, fun _ _ => h.finish,
    h.stopped, h.runs_out⟩
  · intro r
    rw [answer, decide_eq_true_iff, h.room]
  · intro r taken
    rw [answer, decide_eq_true_iff] at taken
    rw [channel, List.take_of_length_le taken]
  · intro r refused
    rw [answer, decide_eq_false_iff_not] at refused
    have full : c.room = 0 := by omega
    rw [channel, full, List.take_zero, List.append_nil]

end

/-- A client that ends badly the first time, does not start the second time, is killed the third time,
and works after that. -/
def flakyClient : Desktop.Client where
  path := "/usr/bin/notify-send"
  isFile := true
  outcome
    | 0 => .ok (.code 1)
    | 1 => .error (.other "Resource temporarily unavailable (os error 11)")
    | 2 => .ok (.signal 9 false)
    | _ => .ok (.code 0)

def flakyWorld : World where
  outside := ⟨Desktop.platform "https://localhost" (some flakyClient) fun _ => ⟨true, none⟩,
    Desktop.host (some flakyClient), fun _ => none⟩
  disk := ⟨settingsFile, .absent⟩
  journal := []

end Desk
end AlertRelay
