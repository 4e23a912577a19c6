import AlertRelay.Desktop
import AlertRelay.Proofs.Desk.Background
import AlertRelay.Proofs.Desk.Calls
import AlertRelay.Scripted

/-!
# The channel is tried for once

Whoever registers first decides. That call alone may reach a host, with the capabilities and under
the scope it brings along, and its answer is repeated to all later ones whatever they bring. What
the worker reports on beginning waits for the next poll and is collected there, so the polls
together are told a beginning of the lifecycle, and all of it once the worker has begun.
-/
namespace AlertRelay

/-- The scope of an installation and what came of it. -/
def Event.installation? : Event → Option (String × Except PlatformError Installation)
  | installed scope outcome => some (scope, outcome)
  | _ => none

def installationsIn (es : List Event) : List (String × Except PlatformError Installation) :=
  es.filterMap Event.installation?

theorem installationsIn_append (es fs : List Event) :
    installationsIn (es ++ fs) = installationsIn es ++ installationsIn fs := List.filterMap_append

/-- An entry that is no installation. -/
def Event.isIdle (e : Event) : Bool := e.installation?.isNone

theorem installationsIn_of_idle {es : List Event} (idle : ∀ e ∈ es, e.isIdle = true) :
    installationsIn es = [] :=
  List.filterMap_eq_nil_iff.mpr fun e member => Option.isNone_iff_eq_none.mp (idle e member)

theorem Event.isIdle_of_handed {e : Event} {r : Request} (h : e.handed? = some r) :
    e.isIdle = true := by
  cases e with
  | installed _ _ => cases h
  | _ => rfl

/-- A worker that waits for a client to end has begun like one that waits for a request. -/
def Worker.resting : Worker → Worker
  | .busy .. => .running
  | worker => worker

/-- The channel, whatever is queued and whatever client is waited for. -/
def Channel.outline (c : Channel) : Channel := { c with queue := [], worker := c.worker.resting }

namespace Desk

theorem Backstage.idle {d after : Desk} (h : d.Backstage after) :
    d.world.Enters Event.isIdle after.world := by
  obtain ⟨es, grown, fine⟩ := h.world
  rw [grown]
  refine World.enters_enterAll _ es fun e member => ?_
  have background := fine e member
  cases e <;> first | rfl | cases background

/-- The desk with a host to call. -/
def facing (d : Desk) (host : Host) : Desk := { d with world.outside.host := host }

/-- What somebody who registers brings along. -/
structure Registration where
  capabilities : Capabilities
  host : Host
  scope : String

inductive Turn where
  | register (r : Registration)
  | poll
  | present (r : Request)
  | begin
  /-- A request is taken, and the client for it started by the host that it belongs to. -/
  | take (host : Host)
  /-- The client that the worker waits for ends. -/
  | finish
  /-- The receiving end goes away with whatever is queued. -/
  | abandon
  /-- Everything queued is taken out at the receiving end. -/
  | empty

def Turn.isRegister : Turn → Bool
  | register .. => true
  | _ => false

/-- A desk and what its callers were told so far. -/
structure Course where
  desk : Desk
  /-- The answers to registrations. -/
  answers : List Bool
  /-- What all polls collected. -/
  reports : List Lifecycle

namespace Course

def turn (x : Course) : Turn → Course
  | .register r =>
      let (desk, registered) := (x.desk.facing r.host).register r.capabilities r.scope
      { x with desk := desk, answers := x.answers ++ [registered] }
  | .poll =>
      let (desk, events) := x.desk.poll
      { x with desk := desk, reports := x.reports ++ events }
  | .present r => { x with desk := (x.desk.present .channelFirst r).1 }
  | .begin => { x with desk := x.desk.begin }
  | .take host => { x with desk := (x.desk.facing host).take }
  | .finish => { x with desk := x.desk.finish }
  | .abandon => { x with desk := x.desk.mapChannel Channel.abandon }
  | .empty => { x with desk := x.desk.mapChannel fun c => c.empty.1 }

def run (x : Course) (turns : List Turn) : Course := turns.foldl turn x

/-- A desk that nobody has used. -/
def start (w : World) : Course := ⟨.new w, [], []⟩

theorem run_append (x : Course) (turns later : List Turn) :
    x.run (turns ++ later) = (x.run turns).run later := List.foldl_append

theorem length_answers (x : Course) (turns : List Turn) :
    (x.run turns).answers.length = x.answers.length + turns.countP Turn.isRegister := by
  induction turns generalizing x with
  | nil => rfl
  | cons t turns ih =>
    have rest : (x.run (t :: turns)).answers.length =
        (x.turn t).answers.length + turns.countP Turn.isRegister := ih (x.turn t)
    rw [rest, List.countP_cons]
    cases t with
    | register r =>
      simp only [turn, List.length_append, List.length_singleton, Turn.isRegister, if_true]
      omega
    | _ => rfl

/-! ## Installations -/

variable {x : Course} {t : Turn}

/-- The turn is no first registration. -/
def Later (x : Course) (t : Turn) : Prop := x.desk.attempted = true ∨ t.isRegister = false

theorem turn_register_again {r : Registration} (later : x.Later (.register r)) :
    x.turn (.register r) =
      { x with desk := x.desk.facing r.host, answers := x.answers ++ [x.desk.isRegistered] } := by
  have tried : (x.desk.facing r.host).attempted = true :=
    later.resolve_right (by simp [Turn.isRegister])
  simp only [turn, register_again r.capabilities r.scope tried]
  rfl

theorem turn_attempted (later : x.Later t) :
    (x.turn t).desk.attempted = x.desk.attempted := by
  cases t with
  | register r =>
    rw [turn_register_again later]
    rfl
  | poll =>
    change x.desk.poll.1.attempted = _
    rw [poll_eq]
    rfl
  | present r =>
    change (x.desk.present .channelFirst r).1.attempted = _
    rw [present_eq]
    rfl
  | begin => exact x.desk.begin_backstage.attempted
  | take host => exact (x.desk.facing host).take_backstage.attempted
  | finish => exact x.desk.finish_backstage.attempted
  | abandon | empty => rfl

/-- No host is called to install a channel. -/
theorem turn_idle (later : x.Later t) :
    x.desk.world.Enters Event.isIdle (x.turn t).desk.world := by
  cases t with
  | register r =>
    rw [turn_register_again later]
    exact .refl _
  | poll =>
    change x.desk.world.Enters Event.isIdle x.desk.poll.1.world
    rw [poll_eq, noteAll_eq]
    exact World.enters_enterAll _ _ (List.forall_mem_map.mpr fun _ _ => rfl)
  | present r => exact present_enters (fun _ => rfl) (fun _ => Event.isIdle_of_handed) x.desk
  | begin => exact x.desk.begin_backstage.idle
  | take host => exact (x.desk.facing host).take_backstage.idle
  | finish => exact x.desk.finish_backstage.idle
  | abandon | empty => exact .refl _

/-! ## The channel -/

def outline (x : Course) : Option Channel := x.desk.channel?.map Channel.outline

/-- What may become of the channel and of what was collected. -/
inductive Turned (x y : Course) : Prop
  | same (outline : y.outline = x.outline) (reports : y.reports = x.reports)
  | collected {c : Channel} (before : x.outline = some c) (outline : y.outline = some c.collect.1)
      (reports : y.reports = x.reports ++ c.unread)
  | begun {c : Channel} (before : x.outline = some c) (waiting : c.worker = .waiting)
      (outline : y.outline = some { c with worker := .running, unread := c.unread ++ lifecycle })
      (reports : y.reports = x.reports)
  | abandoned {c : Channel} (before : x.outline = some c) (outline : y.outline = some c.abandon)
      (reports : y.reports = x.reports)

theorem outline_mapChannel (x : Course) (f : Channel → Channel)
    (same : ∀ c, (f c).outline = c.outline) :
    ({ x with desk := x.desk.mapChannel f } : Course).outline = x.outline := by
  simp only [outline, mapChannel, Option.map_map, Function.comp_def, same]

theorem turned_poll (x : Course) : Turned x (x.turn .poll) := by
  cases h : x.desk.channel? with
  | none => exact .same (by simp [turn, poll, outline, h]) (by simp [turn, poll, h])
  | some c =>
    refine .collected (c := c.outline) (by simp [outline, h]) ?_ ?_
    · simp [turn, poll, outline, h, noteAll, Channel.collect, Channel.outline]
    · simp [turn, poll, h, Channel.collect, Channel.outline]

theorem turned_begin (x : Course) : Turned x (x.turn .begin) := by
  rcases x.desk.begin_cases with ⟨same, -⟩ | ⟨c, here, waiting, begun⟩
  · exact .same (by simp only [turn, outline, same]) rfl
  · refine .begun (c := c.outline) (by simp [outline, here]) ?_ ?_ rfl
    · simp [Channel.outline, Worker.resting, waiting]
    · simp only [turn, outline, begun]
      rfl

/-- Whether or not the client starts, the worker has begun before and after. -/
theorem turned_take (x : Course) (host : Host) : Turned x (x.turn (.take host)) := by
  rcases (x.desk.facing host).take_cases with ⟨same, -⟩ | ⟨c, r, rest, here, running, -, taken⟩
  · refine .same ?_ rfl
    simp only [turn, outline, same]
    rfl
  · have before : x.outline = some c.outline := congrArg (Option.map Channel.outline) here
    refine .same (Eq.trans ?_ before.symm) rfl
    simp only [turn, outline, taken, enterAll_channel?, Option.map_some]
    cases (x.desk.facing host).world.delivery r <;>
      simp [Channel.launched, Channel.await, Channel.outline, Worker.resting, running]

theorem turned_finish (x : Course) : Turned x (x.turn .finish) := by
  rcases x.desk.finish_cases with ⟨same, -⟩ | ⟨c, r, status, here, busy, finished⟩
  · exact .same (by simp only [turn, outline, same]) rfl
  · refine .same ?_ rfl
    simp [turn, outline, finished, here, Channel.outline, Worker.resting, busy]

theorem turned (later : x.Later t) : Turned x (x.turn t) := by
  cases t with
  | register r =>
    rw [turn_register_again later]
    exact .same rfl rfl
  | poll => exact turned_poll x
  | present r =>
    have offered := outline_mapChannel x (fun c => (c.offer r).1) fun c => by
      rw [Channel.offer_eq]
      rfl
    simp only [turn, present_eq]
    exact .same offered rfl
  | begin => exact turned_begin x
  | take host => exact turned_take x host
  | finish => exact turned_finish x
  | abandon =>
    cases h : x.desk.channel? with
    | none => exact .same (by simp [turn, outline, mapChannel, h]) rfl
    | some c =>
      refine .abandoned (c := c.outline) (by simp [outline, h]) ?_ rfl
      simp [turn, outline, mapChannel, h, Channel.abandon, Channel.outline, Worker.resting]
  | empty => exact .same (outline_mapChannel x _ fun _ => rfl) rfl

/-- There is no channel, and nothing was told. -/
def Without (x : Course) : Prop := x.outline = none ∧ x.reports = []

/-- The worker has not begun, and nothing was told. -/
def Silent (scope : String) (x : Course) : Prop :=
  ∃ c, x.outline = some c ∧ c.scope = scope ∧ (c.worker = .waiting ∨ c.worker = .gone) ∧
    c.unread = [] ∧ x.reports = []

/-- The whole lifecycle was told, of which the last part may still wait to be collected. -/
def Told (scope : String) (x : Course) : Prop :=
  ∃ c, x.outline = some c ∧ c.scope = scope ∧ c.worker ≠ .waiting ∧ x.reports ++ c.unread = lifecycle

variable {y : Course} {scope : String}

theorem Turned.without (turned : Turned x y) (h : x.Without) : y.Without := by
  obtain ⟨none, nothing⟩ := h
  cases turned with
  | same outline reports => exact ⟨outline.trans none, reports.trans nothing⟩
  | collected before | begun before | abandoned before =>
    rw [none] at before
    cases before

theorem Turned.silent (turned : Turned x y) (h : x.Silent scope) :
    y.Silent scope ∨ y.Told scope := by
  obtain ⟨c, here, named, unbegun, unread, nothing⟩ := h
  cases turned with
  | same outline reports =>
    exact .inl ⟨c, outline.trans here, named, unbegun, unread, reports.trans nothing⟩
  | collected before outline reports =>
    cases here.symm.trans before
    refine .inl ⟨_, outline, named, unbegun, rfl, ?_⟩
    rw [reports, nothing, unread]
    rfl
  | begun before waiting outline reports =>
    cases here.symm.trans before
    refine .inr ⟨_, outline, named, by simp, ?_⟩
    rw [reports, nothing, unread]
    rfl
  | abandoned before outline reports =>
    cases here.symm.trans before
    exact .inl ⟨_, outline, named, .inr rfl, unread, reports.trans nothing⟩

theorem Turned.told (turned : Turned x y) (h : x.Told scope) : y.Told scope := by
  obtain ⟨c, here, named, begun, all⟩ := h
  cases turned with
  | same outline reports => exact ⟨c, outline.trans here, named, begun, reports ▸ all⟩
  | collected before outline reports =>
    cases here.symm.trans before
    refine ⟨_, outline, named, begun, ?_⟩
    rw [reports, all]
    rfl
  | begun before waiting => 
    cases here.symm.trans before
    exact absurd waiting begun
  | abandoned before outline reports =>
    cases here.symm.trans before
    exact ⟨_, outline, named, by simp [Channel.abandon], reports ▸ all⟩

/-! ## The first registration -/

theorem isRegistered_eq (x : Course) : x.desk.isRegistered = x.outline.isSome := by
  simp [isRegistered, outline]

/-- Nobody has registered. -/
structure Fresh (w : World) (x : Course) : Prop where
  untried : x.desk.attempted = false
  without : x.Without
  unanswered : x.answers = []
  history : w.Enters Event.isIdle x.desk.world

/-- The first registration was answered so, for a channel under `scope`. -/
structure Settled (scope : String) (answer : Bool) (x : Course) : Prop where
  attempted : x.desk.attempted = true
  answers : ∀ b ∈ x.answers, b = answer
  refused : answer = false → x.Without
  registered : answer = true → x.Silent scope ∨ x.Told scope

variable {w : World} {answer : Bool}

theorem fresh_start (w : World) : Fresh w (start w) := ⟨rfl, ⟨rfl, rfl⟩, rfl, .refl w⟩

theorem Fresh.turn (h : Fresh w x) (other : t.isRegister = false) : Fresh w (x.turn t) := by
  have later : x.Later t := .inr other
  refine ⟨(turn_attempted later).trans h.untried, (turned later).without h.without, ?_,
    h.history.trans (turn_idle later)⟩
  cases t with
  | register r => cases other
  | _ => exact h.unanswered

theorem Fresh.run (h : Fresh w x) (turns : List Turn) (others : ∀ t ∈ turns, t.isRegister = false) :
    Fresh w (x.run turns) := by
  induction turns generalizing x with
  | nil => exact h
  | cons t turns ih =>
    obtain ⟨first, rest⟩ := List.forall_mem_cons.mp others
    exact ih (h.turn first) rest

theorem Settled.isRegistered (h : Settled scope answer x) : x.desk.isRegistered = answer := by
  rw [isRegistered_eq]
  cases answer with
  | false => rw [(h.refused rfl).1]; rfl
  | true =>
    rcases h.registered rfl with ⟨c, here, -⟩ | ⟨c, here, -⟩ <;> rw [here] <;> rfl

theorem Settled.turn (h : Settled scope answer x) : Settled scope answer (x.turn t) := by
  have later : x.Later t := .inl h.attempted
  have moved := turned later
  refine ⟨(turn_attempted later).trans h.attempted, ?_, fun no => moved.without (h.refused no), ?_⟩
  · cases t with
    | register r =>
      rw [turn_register_again later, h.isRegistered]
      exact List.forall_mem_append.mpr ⟨h.answers, by simp⟩
    | _ => exact h.answers
  · intro yes
    rcases h.registered yes with silent | told
    · exact moved.silent silent
    · exact .inr (moved.told told)

theorem Settled.run (h : Settled scope answer x) (turns : List Turn) :
    Settled scope answer (x.run turns) ∧ x.desk.world.Enters Event.isIdle (x.run turns).desk.world := by
  induction turns generalizing x with
  | nil => exact ⟨h, .refl _⟩
  | cons t turns ih =>
    obtain ⟨ended, idle⟩ := ih (h.turn (t := t))
    exact ⟨ended, (turn_idle (.inl h.attempted)).trans idle⟩

/-- A poll leaves nothing to be collected. -/
theorem Told.poll (h : x.Told scope) : (x.turn .poll).reports = lifecycle := by
  obtain ⟨c, here, -, -, all⟩ := h
  obtain ⟨channel, held, rfl⟩ := Option.map_eq_some_iff.mp here
  simp only [Course.turn, Desk.poll, held]
  exact all

theorem Turned.complete (turned : Turned x y) (h : x.Told scope) (told : x.reports = lifecycle) :
    y.reports = lifecycle := by
  obtain ⟨c, here, -, -, all⟩ := h
  cases turned with
  | same _ reports | begun _ _ _ reports | abandoned _ _ reports => exact reports.trans told
  | collected before _ reports =>
    cases here.symm.trans before
    exact reports.trans all

theorem Told.run (settled : Settled scope answer x) (h : x.Told scope) (turns : List Turn) :
    (x.run turns).Told scope := by
  induction turns generalizing x with
  | nil => exact h
  | cons t turns ih => exact ih settled.turn ((turned (.inl settled.attempted)).told h)

theorem Told.run_complete (settled : Settled scope answer x) (h : x.Told scope)
    (told : x.reports = lifecycle) (turns : List Turn) : (x.run turns).reports = lifecycle := by
  induction turns generalizing x with
  | nil => exact told
  | cons t turns ih =>
    have moved : Turned x (x.turn t) := turned (.inl settled.attempted)
    exact ih settled.turn (moved.told h) (moved.complete h told)

/-- Somewhere in the turns there is a poll. -/
theorem Told.run_poll (settled : Settled scope answer x) (h : x.Told scope) {turns : List Turn}
    (polled : Turn.poll ∈ turns) : (x.run turns).reports = lifecycle := by
  obtain ⟨earlier, later, rfl⟩ := List.append_of_mem polled
  have before := (settled.run earlier).1
  have told := Told.run settled h earlier
  rw [run_append]
  exact Told.run_complete (x := (x.run earlier).turn .poll) before.turn
    ((turned (.inl before.attempted)).told told) told.poll later

/-- What the host answers where it is called. -/
def outcome (x : Course) (r : Registration) : Except PlatformError Installation :=
  (x.desk.facing r.host).world.installation r.scope

/-- A host is called only with interface and context. -/
def calls (r : Registration) : Bool := r.capabilities.apiAvailable && r.capabilities.secureContext

/-- What a first registration comes to. -/
def verdict (x : Course) (r : Registration) : Bool := calls r && (x.outcome r).isOk

/-- The channel that it gives. -/
def installed? (x : Course) (r : Registration) : Option Channel :=
  (x.desk.facing r.host).installed? r.capabilities r.scope

theorem installed?_cases (x : Course) (r : Registration) :
    (x.verdict r = false ∧ x.installed? r = none) ∨
      (x.verdict r = true ∧ ∃ i : Installation,
        x.installed? r = some (.install r.scope i.capacity i.staffed)) := by
  unfold verdict installed? Desk.installed? outcome calls
  cases r.capabilities.apiAvailable && r.capabilities.secureContext with
  | false => exact .inl ⟨rfl, rfl⟩
  | true =>
    cases (x.desk.facing r.host).world.installation r.scope with
    | error e => exact .inl ⟨rfl, rfl⟩
    | ok i => exact .inr ⟨rfl, i, rfl⟩

theorem installationsIn_registrationEntries (d : Desk) (c : Capabilities) (scope : String) :
    installationsIn (d.registrationEntries c scope) =
      if c.apiAvailable && c.secureContext then [(scope, d.world.installation scope)] else [] := by
  unfold registrationEntries
  cases c.apiAvailable <;> cases c.secureContext <;> cases d.world.installation scope <;> rfl

theorem Fresh.turn_register (h : Fresh w x) (r : Registration) :
    x.turn (.register r) =
      ⟨{ x.desk.facing r.host with attempted := true, channel? := x.installed? r }.enterAll
          ((x.desk.facing r.host).registrationEntries r.capabilities r.scope),
        [x.verdict r], []⟩ := by
  have none_yet : (x.desk.facing r.host).channel? = none := Option.map_eq_none_iff.mp h.without.1
  have answered : (x.installed? r).isSome = x.verdict r := by
    rcases x.installed?_cases r with ⟨no, nothing⟩ | ⟨yes, i, channel⟩
    · rw [no, nothing]
      rfl
    · rw [yes, channel]
      rfl
  rw [← answered]
  simp only [Course.turn, register_eq (d := x.desk.facing r.host) _ _ h.untried, none_yet,
    Option.or_none, h.unanswered, h.without.2]
  rfl

/-- The first registration settles everything. -/
theorem Fresh.register (h : Fresh w x) (r : Registration) :
    Settled r.scope (x.verdict r) (x.turn (.register r)) ∧
      w.Enters (fun _ => true) (x.turn (.register r)).desk.world ∧
      installationsIn (w.since (x.turn (.register r)).desk.world) =
        if calls r then [(r.scope, x.outcome r)] else [] := by
  have entered : x.desk.world.Enters (fun _ => true) (x.turn (.register r)).desk.world := by
    rw [h.turn_register]
    exact World.enters_enterAll (x.desk.facing r.host).world _ fun _ _ => rfl
  have since : x.desk.world.since (x.turn (.register r)).desk.world =
      (x.desk.facing r.host).registrationEntries r.capabilities r.scope := by
    rw [h.turn_register]
    exact World.since_enterAll (x.desk.facing r.host).world _
  refine ⟨?_, (h.history.mono fun _ _ => rfl).trans entered, ?_⟩
  · rw [h.turn_register]
    rcases x.installed?_cases r with ⟨no, nothing⟩ | ⟨yes, i, channel⟩
    · rw [no, nothing]
      exact ⟨rfl, by simp, fun _ => ⟨rfl, rfl⟩, by simp⟩
    · rw [yes, channel]
      refine ⟨rfl, by simp, by simp, fun _ => ?_⟩
      cases staffed : i.staffed with
      | true => exact .inl ⟨_, rfl, rfl, .inl rfl, rfl, rfl⟩
      | false => exact .inr ⟨_, rfl, rfl, by simp [Channel.outline, Channel.install, Worker.resting], rfl⟩
  · rw [h.history.since_trans entered, installationsIn_append,
      installationsIn_of_idle h.history.since.2, since, installationsIn_registrationEntries]
    rfl

/-! ## Whole courses -/

/-- The worker takes requests or waits for a client to end; or there is nobody to begin. -/
def hasBegun (x : Course) : Bool :=
  x.desk.channel?.any fun c => c.worker.resting == .running || c.worker == .idle

/-- What follows from a first registration `r`, made in the course of `x` and with the turns `after`
coming behind it. -/
structure Decided (w : World) (x : Course) (r : Registration) (after : List Turn) : Prop where
  /-- A host was called at most once: by that registration, and only with interface and context. -/
  installations : installationsIn (w.since (x.run (.register r :: after)).desk.world) =
    if calls r then [(r.scope, x.outcome r)] else []
  answers : (x.run (.register r :: after)).answers =
    List.replicate (after.countP Turn.isRegister + 1) (x.verdict r)
  registered : (x.run (.register r :: after)).desk.isRegistered = x.verdict r
  scope : x.verdict r = true →
    (x.run (.register r :: after)).desk.channel?.map Channel.scope = some r.scope
  reports : (x.run (.register r :: after)).reports <+: lifecycle
  refused : x.verdict r = false → (x.run (.register r :: after)).reports = []
  /-- A poll that comes after the worker began completes the reports. -/
  complete : ∀ earlier later, after = earlier ++ later →
    (x.run (.register r :: earlier)).hasBegun = true → Turn.poll ∈ later →
      (x.run (.register r :: after)).reports = lifecycle

theorem Settled.reports (h : Settled scope answer x) : x.reports <+: lifecycle := by
  cases answer with
  | false =>
    rw [(h.refused rfl).2]
    exact List.nil_prefix
  | true =>
    rcases h.registered rfl with ⟨c, -, -, -, -, nothing⟩ | ⟨c, -, -, -, all⟩
    · rw [nothing]
      exact List.nil_prefix
    · exact ⟨c.unread, all⟩

theorem Settled.named (h : Settled scope true x) :
    x.desk.channel?.map Channel.scope = some scope := by
  have named : x.desk.channel?.map Channel.scope = x.outline.map Channel.scope := by
    simp only [outline, Option.map_map]
    rfl
  rw [named]
  rcases h.registered rfl with ⟨c, here, same, -⟩ | ⟨c, here, same, -⟩ <;> rw [here, ← same] <;> rfl

theorem Settled.told (h : Settled scope answer x) (begun : x.hasBegun = true) : x.Told scope := by
  cases held : x.desk.channel? with
  | none => simp [hasBegun, held] at begun
  | some c =>
    have works : c.worker.resting = .running ∨ c.worker = .idle := by
      simpa [hasBegun, held] using begun
    have here : x.outline = some c.outline := by rw [outline, held, Option.map_some]
    cases answer with
    | false =>
      rw [(h.refused rfl).1] at here
      cases here
    | true =>
      rcases h.registered rfl with ⟨c', before, -, unbegun, -⟩ | told
      · cases here.symm.trans before
        have still : c.worker.resting = .waiting ∨ c.worker.resting = .gone := unbegun
        rcases works with runs | idles
        · simp [runs] at still
        · simp [idles, Worker.resting] at still
      · exact told

theorem Fresh.decided (h : Fresh w x) (r : Registration) (after : List Turn) :
    Decided w x r after := by
  obtain ⟨first, entered, called⟩ := h.register r
  obtain ⟨settled, idle⟩ := first.run after
  have answered : (x.run (.register r :: after)).answers.length = after.countP Turn.isRegister + 1 := by
    rw [length_answers, h.unanswered, List.countP_cons]
    simp [Turn.isRegister]
  refine ⟨?_, ?_, settled.isRegistered, ?_, settled.reports, fun no => (settled.refused no).2, ?_⟩
  · rw [← called]
    refine (congrArg installationsIn (entered.since_trans idle)).trans ?_
    rw [installationsIn_append, installationsIn_of_idle idle.since.2, List.append_nil]
  · exact List.eq_replicate_iff.mpr ⟨answered, settled.answers⟩
  · intro yes
    rw [yes] at settled
    exact settled.named
  · rintro earlier later rfl begun polled
    obtain ⟨before, -⟩ := first.run earlier
    refine Eq.trans ?_ (Told.run_poll before (before.told begun) polled)
    exact congrArg reports (run_append (x.turn (.register r)) earlier later)

/-- Before anybody registers there is no channel, nothing is told and no host is called. From the first
registration on its outcome stands, whatever the later ones bring along, whatever is presented and
polled, and whenever the worker begins, takes requests or goes: at most that one installation, the
same answer for everybody, the channel under the same scope, and the reports of all polls together a
beginning of the lifecycle, which is complete with the first poll after the worker began. -/
theorem channel_is_tried_for_once (w : World) (before : List Turn)
    (unregistered : ∀ t ∈ before, t.isRegister = false) :
    let x := (start w).run before
    (x.desk.isRegistered = false ∧ x.reports = [] ∧ installationsIn (w.since x.desk.world) = []) ∧
      ∀ r after, Decided w x r after := by
  intro x
  have fresh : Fresh w x := (fresh_start w).run before unregistered
  refine ⟨⟨?_, fresh.without.2, installationsIn_of_idle fresh.history.since.2⟩, fresh.decided⟩
  rw [isRegistered_eq, fresh.without.1]
  rfl

/-- A desktop with a client, asked with interface and context. -/
def able : Registration where
  capabilities := ⟨true, true, .granted⟩
  host := Desktop.host (some ⟨"/usr/bin/notify-send", true, fun _ => .ok (.code 0)⟩)
  scope := "https://device.lan/"

/-- A host that fails, asked for another scope and without a secure context. -/
def unable : Registration := ⟨⟨true, false, .denied⟩, Scripted.host true, "http://device.lan/"⟩

def idleWorld : World where
  outside := ⟨Scripted.platform ⟨⟨true, true, .granted⟩, none, false, false, false⟩,
    Scripted.host true, fun _ => none⟩
  disk := ⟨settingsFile, .absent⟩
  journal := []

/-- The worker begins between two polls and goes before the last one. -/
def eventful : List Turn :=
  [.poll, .register unable, .present .manualTest, .begin, .abandon, .register unable, .poll, .poll]

/-- There all three registrations are answered by the first, and the last polls find the lifecycle once.
Where the one that fails comes first, the able one is refused like it. -/
theorem first_registration_stands :
    let x := (start idleWorld).run [.poll]
    let y := x.run (.register able :: eventful)
    let z := x.run (.register unable :: [.register able, .begin, .poll])
    (y.answers = [true, true, true] ∧ y.reports = lifecycle ∧
      y.desk.channel?.map Channel.scope = some "https://device.lan/" ∧
      installationsIn (idleWorld.since y.desk.world) = [("https://device.lan/", .ok ⟨32, true⟩)]) ∧
    z.answers = [false, false] ∧ z.reports = [] ∧
      installationsIn (idleWorld.since z.desk.world) = [] := by
  intro x y z
  obtain ⟨-, decided⟩ := channel_is_tried_for_once idleWorld [.poll] (by simp [Turn.isRegister])
  have yes : x.verdict able = true := by decide +kernel
  have no : x.verdict unable = false := by decide +kernel
  obtain ⟨installed, answers, -, scope, -, -, complete⟩ := decided able eventful
  obtain ⟨uninstalled, refusals, -, -, -, refused, -⟩ :=
    decided unable [.register able, .begin, .poll]
  have begun : (x.run (.register able :: eventful.take 4)).hasBegun = true := by decide +kernel
  refine ⟨⟨?_, ?_, scope yes, installed⟩, ?_, refused no, uninstalled⟩
  · rw [answers]
    exact congrArg _ yes
  · exact complete _ _ (List.take_append_drop 4 eventful).symm begun (by simp [eventful])
  · rw [refusals]
    exact congrArg _ no

end Course

end Desk
end AlertRelay
