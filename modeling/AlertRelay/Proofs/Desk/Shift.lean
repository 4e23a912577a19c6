import AlertRelay.Desktop
import AlertRelay.Proofs.Desk.Background

/-!
# The desk and its worker side by side

The foreground and the worker each move on their own: one offers requests and may at any time let
go of its end, the other takes requests, starts a client for each and waits for that to end, and
stops when nothing can come any more. In every order of their moves the journal accounts for each
accepted request: a client was to show it, or it is still queued. This is about a worker that is
left to run: a process that ends does not wait for it, and what is queued then goes unshown.
-/
namespace AlertRelay

theorem Desktop.install_eq_ok {client? : Option Client} {n : Nat} {scope : String}
    {i : Installation} (installed : (host client?).install n scope = .ok i) :
    i = ⟨capacity, true⟩ := by
  unfold host at installed
  cases client? with
  | none => cases installed
  | some c =>
    simp only at installed
    split at installed
    · cases installed
      rfl
    · cases installed

namespace Desk

/-- Moves at a desk, of the foreground, of the worker, or of a tone on its thread. -/
inductive Move where
  | alert (c : Capabilities) (s : Settings) (decision : Decision)
  | test (c : Capabilities)
  | poll
  /-- The foreground lets go of its end. -/
  | hangUp
  | begin
  /-- A request is taken and the client for it started, if that can be. -/
  | take
  /-- The client ends, however it does. -/
  | finish
  | stop
  | openTone (n : Nat)

/-- The foreground can still use its end. -/
def isOpen (d : Desk) : Bool := d.channel?.any fun c => !c.closed

/-- A move that is not possible changes nothing. -/
def Move.apply (d : Desk) : Move → Desk
  | alert c s decision => if d.isOpen then (d.dispatch .channelFirst c s decision).1 else d
  | test c => if d.isOpen then (d.test .channelFirst c).1 else d
  | poll => if d.isOpen then d.poll.1 else d
  | hangUp => d.mapChannel Channel.close
  | begin => d.begin
  | take => d.take
  | finish => d.finish
  | stop => d.stop
  | openTone n => d.openTone n

/-- A desk after moves in any order. -/
def after (d : Desk) (moves : List Move) : Desk := moves.foldl Move.apply d

theorem after_append (d : Desk) (moves later : List Move) :
    d.after (moves ++ later) = (d.after moves).after later := List.foldl_append

/-- A desk where the channel has just been tried for. -/
def registered (w : World) (c : Capabilities) (scope : String) : Desk :=
  ((Desk.new w).register c scope).1

/-- `c` is the channel, and every accepted request is accounted for. -/
structure Kept (w : World) (c : Channel) (d : Desk) : Prop where
  channel : d.channel? = some c
  world : w.Extends d.world
  capacity : c.capacity = Desktop.capacity
  bounded : c.queue.length ≤ Desktop.capacity
  account : acceptedIn (w.since d.world) = attemptedIn (w.since d.world) ++ c.queue
  staffed : c.worker ≠ .idle
  gone : c.worker = .gone → c.closed = true ∧ c.queue = []

variable {w : World} {c : Channel} {d : Desk}

/-- What is entered is told apart by what it accepts and attempts. -/
theorem Kept.since (h : Kept w c d) (es : List Event) :
    acceptedIn (w.since (d.world.enterAll es)) = acceptedIn (w.since d.world) ++ acceptedIn es ∧
      attemptedIn (w.since (d.world.enterAll es)) = attemptedIn (w.since d.world) ++ attemptedIn es := by
  rw [h.world.since_enterAll, acceptedIn_append, attemptedIn_append]
  exact ⟨rfl, rfl⟩

/-- Entries that accept and attempt nothing leave the account as it is, and the channel may change as
long as its queue stays. -/
theorem Kept.move (h : Kept w c d) (next : Channel) (es : List Event)
    (same : next.capacity = c.capacity ∧ next.queue = c.queue)
    (quiet : acceptedIn es = [] ∧ attemptedIn es = []) (staffed : next.worker ≠ .idle)
    (gone : next.worker = .gone → next.closed = true ∧ next.queue = []) :
    Kept w next ({ d with channel? := some next }.enterAll es) := by
  obtain ⟨accepts, attempts⟩ := h.since es
  refine ⟨rfl, h.world.trans ⟨es, rfl⟩, same.1.trans h.capacity, ?_, ?_, staffed, gone⟩
  · rw [same.2]
    exact h.bounded
  · rw [enterAll_world, accepts, attempts, quiet.1, quiet.2, List.append_nil, List.append_nil, same.2]
    exact h.account

/-- Whatever the foreground submits is accepted as far as there is room, and queued then. -/
theorem Kept.submit (h : Kept w c d) (opened : c.closed = false) {rs : List Request} {after : Desk}
    (sent : d.Submits rs after) : ∃ c, Kept w c after := by
  obtain ⟨es, rfl, accepts, attempts⟩ := sent
  -- A worker stops only behind a closed end, so behind an open one the room is what is left.
  have alive : c.worker ≠ .gone := by
    intro gone
    rw [(h.gone gone).1] at opened
    cases opened
  have free : c.room = Desktop.capacity - c.queue.length := by
    rw [Channel.room, if_neg alive, h.capacity]
  have bounded := h.bounded
  obtain ⟨accepted, attempted⟩ := h.since es
  refine ⟨{ c with queue := c.queue ++ rs.take c.room }, ?_, ?_, h.capacity, ?_, ?_, h.staffed,
    fun gone => absurd gone alive⟩
  · rw [enterAll_channel?]
    exact offeredAll_channel? rs h.channel
  · rw [enterAll_world, offeredAll_world]
    exact h.world.trans ⟨es, rfl⟩
  · rw [List.length_append, List.length_take]
    omega
  · rw [enterAll_world, offeredAll_world, accepted, attempted, accepts, attempts, h.account,
      room_of_channel h.channel, List.append_nil, List.append_assoc]

theorem Kept.isOpen (h : Kept w c d) : d.isOpen = !c.closed := by
  simp [Desk.isOpen, h.channel]

theorem kept_poll (h : Kept w c d) : Kept w c.collect.1 d.poll.1 := by
  have told := h.move c.collect.1 (d.reportNotices.map .noted) ⟨rfl, rfl⟩ (notices_quiet _) h.staffed
    h.gone
  have same : d.collected = { d with channel? := some c.collect.1 } := by
    simp only [collected, mapChannel, h.channel, Option.map_some]
  rw [poll_eq, noteAll_eq, same]
  exact told

theorem kept_hangUp (h : Kept w c d) : Kept w c.close (d.mapChannel Channel.close) := by
  have closed := h.move c.close [] ⟨rfl, rfl⟩ ⟨rfl, rfl⟩ h.staffed fun gone => ⟨rfl, (h.gone gone).2⟩
  simp only [mapChannel, h.channel, Option.map_some]
  exact closed

theorem kept_begin (h : Kept w c d) : ∃ c, Kept w c d.begin := by
  rcases d.begin_cases with ⟨same, -⟩ | ⟨c', channel, -, begun⟩
  · rw [same]
    exact ⟨c, h⟩
  · cases h.channel.symm.trans channel
    rw [begun]
    exact ⟨_, h.move _ _ ⟨rfl, rfl⟩ ⟨rfl, rfl⟩ (by simp) (by simp)⟩

/-- The oldest request leaves the queue and is attempted, whether or not its client starts. -/
theorem Kept.launched (h : Kept w c d) {r : Request} {rest : List Request}
    (running : c.worker = .running) (queue : c.queue = r :: rest)
    (outcome : Except IoFault ExitStatus) :
    Kept w ({ c with queue := rest }.launched r outcome)
      ({ d with channel? := some ({ c with queue := rest }.launched r outcome) }.enterAll
        (launchEntries r outcome)) := by
  obtain ⟨accepts, attempts⟩ := h.since (launchEntries r outcome)
  obtain ⟨nothing, taken⟩ := launchEntries_attempt r outcome
  have bounded := h.bounded
  rw [queue, List.length_cons] at bounded
  have account := h.account
  rw [queue] at account
  refine ⟨rfl, h.world.trans ⟨_, rfl⟩, ?_, ?_, ?_, ?_, ?_⟩
  · cases outcome <;> exact h.capacity
  · rw [Channel.launched_queue]
    exact Nat.le_of_succ_le bounded
  · rw [enterAll_world, accepts, attempts, nothing, taken, Channel.launched_queue, account]
    simp
  · cases outcome <;> simp [Channel.launched, Channel.await, running]
  · cases outcome <;> simp [Channel.launched, Channel.await, running]

theorem kept_take (h : Kept w c d) : ∃ c, Kept w c d.take := by
  rcases d.take_cases with ⟨same, -⟩ | ⟨c', r, rest, channel, running, queue, taken⟩
  · rw [same]
    exact ⟨c, h⟩
  · cases h.channel.symm.trans channel
    rw [taken]
    exact ⟨_, h.launched running queue _⟩

/-- However a client ends, the worker stays and has lost nothing. -/
theorem kept_finish (h : Kept w c d) : ∃ c, Kept w c d.finish := by
  rcases d.finish_cases with ⟨same, -⟩ | ⟨c', r, status, channel, -, finished⟩
  · rw [same]
    exact ⟨c, h⟩
  · cases h.channel.symm.trans channel
    rw [finished]
    exact ⟨_, h.move _ _ ⟨rfl, rfl⟩ (exitEntries_quiet r status) (by simp) (by simp)⟩

/-- The worker stops only behind a closed end, with nothing queued. -/
theorem kept_stop (h : Kept w c d) : ∃ c, Kept w c d.stop := by
  rcases d.stop_cases with ⟨same, -⟩ | ⟨c', channel, -, empty, closed, stopped⟩
  · rw [same]
    exact ⟨c, h⟩
  · cases h.channel.symm.trans channel
    rw [stopped]
    exact ⟨_, h.move _ _ ⟨rfl, rfl⟩ ⟨rfl, rfl⟩ (by simp) fun _ => ⟨closed, empty⟩⟩

theorem kept_openTone (h : Kept w c d) (n : Nat) : Kept w c (d.openTone n) := by
  have same : d = { d with channel? := some c } := by rw [← h.channel]
  rw [openTone_eq]
  split
  · rw [same]
    exact h.move c _ ⟨rfl, rfl⟩ (deviceEntries_quiet _ _) h.staffed h.gone
  · exact h

/-- Every move keeps the account. -/
theorem apply_kept (move : Move) (h : ∃ c, Kept w c d) : ∃ c, Kept w c (move.apply d) := by
  obtain ⟨c, h⟩ := h
  -- After hanging up the foreground's moves do nothing.
  have submitted {rs : List Request} {after : Desk} (sent : d.Submits rs after) :
      ∃ c, Kept w c (if d.isOpen then after else d) := by
    cases opened : d.isOpen with
    | false => exact ⟨c, h⟩
    | true => exact h.submit (by simpa [h.isOpen] using opened) sent
  cases move with
  | alert caps settings decision => exact submitted (d.dispatch_submits caps settings decision)
  | test caps => exact submitted (d.test_submits caps)
  | poll =>
    rw [Move.apply]
    split
    · exact ⟨_, kept_poll h⟩
    · exact ⟨c, h⟩
  | hangUp => exact ⟨_, kept_hangUp h⟩
  | begin => exact kept_begin h
  | take => exact kept_take h
  | finish => exact kept_finish h
  | stop => exact kept_stop h
  | openTone n => exact ⟨c, kept_openTone h n⟩

theorem after_kept (moves : List Move) (h : ∃ c, Kept w c d) : ∃ c, Kept w c (d.after moves) := by
  induction moves generalizing d with
  | nil => exact h
  | cons move moves ih => exact ih (apply_kept move h)

/-- A channel that is installed as on a desktop holds as many requests as it should, and none yet. -/
theorem registered_kept {client? : Option Desktop.Client} {caps : Capabilities} {scope : String}
    (desktop : w.outside.host.install = (Desktop.host client?).install)
    (installed : ((Desk.new w).register caps scope).2 = true) :
    ∃ c, Kept w c (registered w caps scope) := by
  obtain ⟨i, accepted, desk⟩ := register_installs rfl installed
  have described : i = ⟨Desktop.capacity, true⟩ := by
    simp only [Desk.new, World.installation, desktop] at accepted
    exact Desktop.install_eq_ok accepted
  subst described
  have entered : (registered w caps scope).world =
      w.enterAll [.installed scope (.ok ⟨Desktop.capacity, true⟩), .noted (.channelRegistered scope)] := by
    rw [registered, desk]
    rfl
  refine ⟨.install scope Desktop.capacity true, ?_, ⟨_, entered⟩, rfl, Nat.zero_le _, ?_, ?_, ?_⟩
  · rw [registered, desk]
    rfl
  · rw [entered, World.since_enterAll]
    rfl
  · simp [Channel.install]
  · intro gone
    cases gone

end Desk
end AlertRelay
