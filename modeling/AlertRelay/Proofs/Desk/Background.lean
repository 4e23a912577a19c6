import AlertRelay.Proofs.Desk.Submission

/-!
# What goes on behind the foreground

The worker begins, takes requests, waits for the clients that it starts, and stops; the thread of a
detached tone comes to open the device. Each of these moves is told in full by one lemma: when it is
possible, what it makes of the channel and what it enters. None of them submits a request.
-/
namespace AlertRelay

/-- What is entered when the client for a request is started, by what will come of it. -/
def launchEntries (r : Request) (outcome : Except IoFault ExitStatus) : List Event :=
  .launched r (launchFault? outcome) ::
    ((launchFault? outcome).map fun fault => .noted (.deliveryFailed fault)).toList

/-- What is entered when that client ends. -/
def exitEntries (r : Request) (status : ExitStatus) : List Event :=
  .exited r status :: if status.isSuccess then [] else [.noted (.deliveryExited status)]

/-- What is entered when the thread of a tone comes to open the device. -/
def deviceEntries (n : Nat) (fault? : Option String) : List Event :=
  .opened n fault? :: (fault?.map fun reason => .noted (.toneLost reason)).toList

/-- The channel once the client for a request was started: only one that starts is waited for. -/
def Channel.launched (c : Channel) (r : Request) : Except IoFault ExitStatus → Channel
  | .ok status => c.await r status
  | .error _ => c

theorem Channel.launched_queue (c : Channel) (r : Request) (outcome : Except IoFault ExitStatus) :
    (c.launched r outcome).queue = c.queue := by
  cases outcome <;> rfl

/-- The request whose client the worker waits for, and how that will end. -/
def Channel.client? (c : Channel) : Option (Request × ExitStatus) :=
  match c.worker with
  | .busy r status => some (r, status)
  | _ => none

def Desk.client? (d : Desk) : Option (Request × ExitStatus) := d.channel?.bind Channel.client?

theorem Desk.client?_mapChannel (d : Desk) {f : Channel → Channel}
    (same : ∀ c, (f c).worker = c.worker) : (d.mapChannel f).client? = d.client? := by
  cases h : d.channel? <;> simp [client?, mapChannel, h, Channel.client?, same]

/-- The worker of a channel that was just installed has started no client. -/
theorem Desk.installed?_client? (d : Desk) (c : Capabilities) (scope : String) :
    (d.installed? c scope).bind Channel.client? = none := by
  unfold installed?
  split
  · cases d.world.installation scope with
    | error e => rfl
    | ok i =>
      cases staffed : i.staffed <;>
        simp [Except.toOption, Channel.install, Channel.client?, staffed]
  · rfl

/-- Entries of the worker, of tones on their threads, and what is told. -/
def Event.isBackground : Event → Bool
  | noted _ | launched .. | exited .. | opened .. => true
  | _ => false

theorem launchEntries_background (r : Request) (outcome : Except IoFault ExitStatus) :
    ∀ e ∈ launchEntries r outcome, e.isBackground = true := by
  cases outcome <;> simp [launchEntries, launchFault?, Event.isBackground]

theorem exitEntries_background (r : Request) (status : ExitStatus) :
    ∀ e ∈ exitEntries r status, e.isBackground = true := by
  cases succeeded : status.isSuccess <;> simp [exitEntries, succeeded, Event.isBackground]

theorem deviceEntries_background (n : Nat) (fault? : Option String) :
    ∀ e ∈ deviceEntries n fault?, e.isBackground = true := by
  cases fault? <;> simp [deviceEntries, Event.isBackground]

/-- A request is attempted when its client is started, whether or not it starts. -/
theorem launchEntries_attempt (r : Request) (outcome : Except IoFault ExitStatus) :
    acceptedIn (launchEntries r outcome) = [] ∧ attemptedIn (launchEntries r outcome) = [r] := by
  cases outcome <;> exact ⟨rfl, rfl⟩

theorem exitEntries_quiet (r : Request) (status : ExitStatus) :
    acceptedIn (exitEntries r status) = [] ∧ attemptedIn (exitEntries r status) = [] := by
  cases succeeded : status.isSuccess <;> simp only [exitEntries, succeeded] <;> exact ⟨rfl, rfl⟩

theorem deviceEntries_quiet (n : Nat) (fault? : Option String) :
    acceptedIn (deviceEntries n fault?) = [] ∧ attemptedIn (deviceEntries n fault?) = [] := by
  cases fault? <;> exact ⟨rfl, rfl⟩

namespace Desk

/-! ## The moves -/

theorem begin_cases (d : Desk) :
    (d.begin = d ∧ ∀ c, d.channel? = some c → c.worker ≠ .waiting) ∨
      ∃ c, d.channel? = some c ∧ c.worker = .waiting ∧
        d.begin = { d with
          channel? := some { c with worker := .running, unread := c.unread ++ lifecycle } }.enterAll
            [.noted (.workerRunning c.scope)] := by
  cases begun : d.channel?.bind Channel.begin? with
  | none =>
    refine .inl ⟨by simp only [begin, begun], fun c channel waiting => ?_⟩
    simp [channel, Channel.begin?, waiting] at begun
  | some next =>
    obtain ⟨c, channel, begins⟩ := Option.bind_eq_some_iff.mp begun
    obtain ⟨waiting, rfl⟩ := Channel.begin?_eq_some begins
    refine .inr ⟨c, channel, waiting, ?_⟩
    simp only [begin, begun]
    rfl

theorem take_cases (d : Desk) :
    (d.take = d ∧ ∀ c, d.channel? = some c → c.worker = .running → c.queue = []) ∨
      ∃ c r rest, d.channel? = some c ∧ c.worker = .running ∧ c.queue = r :: rest ∧
        d.take = { d with
          channel? := some ({ c with queue := rest }.launched r (d.world.delivery r)) }.enterAll
            (launchEntries r (d.world.delivery r)) := by
  cases taken : d.channel?.bind Channel.take? with
  | none =>
    refine .inl ⟨by simp only [take, taken], fun c channel running => ?_⟩
    cases queue : c.queue with
    | nil => rfl
    | cons r rest => simp [channel, Channel.take?, running, queue] at taken
  | some front =>
    obtain ⟨r, next⟩ := front
    obtain ⟨c, channel, from_queue⟩ := Option.bind_eq_some_iff.mp taken
    obtain ⟨running, rest, queue, rfl⟩ := Channel.take?_eq_some from_queue
    refine .inr ⟨c, r, rest, channel, running, queue, ?_⟩
    simp only [take, taken, World.launch_eq, launchEntries]
    cases d.world.delivery r <;> rfl

theorem finish_cases (d : Desk) :
    (d.finish = d ∧ ∀ c r status, d.channel? = some c → c.worker ≠ .busy r status) ∨
      ∃ c r status, d.channel? = some c ∧ c.worker = .busy r status ∧
        d.finish = { d with channel? := some { c with worker := .running } }.enterAll
          (exitEntries r status) := by
  cases finished : d.channel?.bind Channel.finish? with
  | none =>
    refine .inl ⟨by simp only [finish, finished], fun c r status channel busy => ?_⟩
    simp [channel, Channel.finish?, busy] at finished
  | some ended =>
    obtain ⟨r, status, next⟩ := ended
    obtain ⟨c, channel, waited⟩ := Option.bind_eq_some_iff.mp finished
    obtain ⟨busy, rfl⟩ := Channel.finish?_eq_some waited
    refine .inr ⟨c, r, status, channel, busy, ?_⟩
    simp only [finish, finished, exitEntries]
    cases status.isSuccess <;> rfl

theorem stop_cases (d : Desk) :
    (d.stop = d ∧ ∀ c, d.channel? = some c → ¬ (c.worker = .running ∧ c.queue = [] ∧ c.closed = true)) ∨
      ∃ c, d.channel? = some c ∧ c.worker = .running ∧ c.queue = [] ∧ c.closed = true ∧
        d.stop = { d with channel? := some { c with worker := .gone } }.enterAll
          [.noted (.workerStopped c.scope)] := by
  cases stopped : d.channel?.bind Channel.stop? with
  | none =>
    refine .inl ⟨by simp only [stop, stopped], fun c channel idle => ?_⟩
    simp [channel, Channel.stop?, idle] at stopped
  | some next =>
    obtain ⟨c, channel, ended⟩ := Option.bind_eq_some_iff.mp stopped
    obtain ⟨running, empty, closed, rfl⟩ := Channel.stop?_eq_some ended
    refine .inr ⟨c, channel, running, empty, closed, ?_⟩
    simp only [stop, stopped]
    rfl

theorem openTone_eq (d : Desk) (n : Nat) :
    d.openTone n =
      if d.world.isUnopened n then
        d.enterAll (deviceEntries n (d.world.outside.platform.toneFault n))
      else d := by
  unfold openTone
  split
  · simp only [World.openDevice_eq, deviceEntries]
    cases d.world.outside.platform.toneFault n <;> rfl
  · rfl

/-! ## What they have in common -/

/-- Nothing happened but background entries, the channel apart. -/
structure Backstage (d after : Desk) : Prop where
  world : ∃ es, after.world = d.world.enterAll es ∧ ∀ e ∈ es, e.isBackground = true
  attempted : after.attempted = d.attempted

theorem Backstage.refl (d : Desk) : d.Backstage d := ⟨⟨[], rfl, by simp⟩, rfl⟩

theorem Backstage.trans {d after later : Desk} (first : d.Backstage after)
    (second : after.Backstage later) : d.Backstage later := by
  obtain ⟨⟨es, grown, fine⟩, attempted⟩ := first
  obtain ⟨⟨fs, grown', fine'⟩, attempted'⟩ := second
  refine ⟨⟨es ++ fs, ?_, List.forall_mem_append.mpr ⟨fine, fine'⟩⟩, attempted'.trans attempted⟩
  rw [grown', grown, World.enterAll_enterAll]

theorem backstage_enterAll (d : Desk) (channel? : Option Channel) {es : List Event}
    (fine : ∀ e ∈ es, e.isBackground = true) :
    d.Backstage ({ d with channel? := channel? }.enterAll es) := ⟨⟨es, rfl, fine⟩, rfl⟩

theorem begin_backstage (d : Desk) : d.Backstage d.begin := by
  rcases d.begin_cases with ⟨same, -⟩ | ⟨c, -, -, begun⟩
  · rw [same]
    exact .refl d
  · rw [begun]
    exact d.backstage_enterAll _ (by simp [Event.isBackground])

theorem take_backstage (d : Desk) : d.Backstage d.take := by
  rcases d.take_cases with ⟨same, -⟩ | ⟨c, r, rest, -, -, -, taken⟩
  · rw [same]
    exact .refl d
  · rw [taken]
    exact d.backstage_enterAll _ (launchEntries_background _ _)

theorem finish_backstage (d : Desk) : d.Backstage d.finish := by
  rcases d.finish_cases with ⟨same, -⟩ | ⟨c, r, status, -, -, finished⟩
  · rw [same]
    exact .refl d
  · rw [finished]
    exact d.backstage_enterAll _ (exitEntries_background _ _)

theorem stop_backstage (d : Desk) : d.Backstage d.stop := by
  rcases d.stop_cases with ⟨same, -⟩ | ⟨c, -, -, -, -, stopped⟩
  · rw [same]
    exact .refl d
  · rw [stopped]
    exact d.backstage_enterAll _ (by simp [Event.isBackground])

theorem openTone_backstage (d : Desk) (n : Nat) : d.Backstage (d.openTone n) := by
  rw [openTone_eq]
  split
  · exact d.backstage_enterAll _ (deviceEntries_background _ _)
  · exact .refl d

theorem settle_backstage (d : Desk) : d.Backstage d.settle := by
  have turns (n : Nat) : d.begin.finish.Backstage (n.repeat takeNext d.begin.finish) := by
    induction n with
    | zero => exact .refl _
    | succ n ih => exact (ih.trans (take_backstage _)).trans (finish_backstage _)
  exact (d.begin_backstage.trans (finish_backstage _)).trans (turns _)

end Desk
end AlertRelay
