import AlertRelay.Desktop
import AlertRelay.Proofs.Session.Carried
import AlertRelay.Proofs.Session.Handover
import AlertRelay.Proofs.Session.Watch

/-!
# The order in which a key's alerts are tried

The alerts of a key form a line: those tried already, those in the queue, and those of the poll at hand
that are still to be dispatched. The worker moves along the line and the foreground adds to its end,
with one exception. An alert that falls back for want of room, while others of its key are queued, goes
ahead of exactly these. Without such an alert the line is in the order of the fires.

What was tried forms a course of its own: the attempts that ended, and the one whose client the worker
waits for. Each ends before the next begins, again with one exception: an alert that falls back while
a client runs for an older one of its key is shown at once, and the older one may come after it.
-/
namespace AlertRelay

open Desk (Carries carries_noteAll)

namespace Watch

open Session (carries_handle carries_setUp handle_permitted setUp_permitted)

/-- The alerts of the poll at hand that are still to be dispatched. -/
def pending (x : Watch) : List Decision := (x.poll?.map Poll.pending).getD []

/-- The requests of a key's alerts. -/
def requests (key : String) (ds : List Decision) : List Request :=
  (ds.filter (·.key == key)).map Decision.request

def fires (x : Watch) (key : String) : List Request := requests key x.fired

/-- What was tried for a key since an earlier world, by foreground and worker together. -/
def attempts (w : World) (x : Watch) (key : String) : List Request :=
  attemptsFor key (w.since x.session.desk.world)

/-- Those attempts that ended, in the order of their ends, and whether they were shown. -/
def ends (w : World) (x : Watch) (key : String) : List (Request × Bool) :=
  endsFor key (w.since x.session.desk.world)

def shown (w : World) (x : Watch) (key : String) : List Request :=
  ((x.ends w key).filter Prod.snd).map Prod.fst

/-- What is queued for a key. -/
def waiting (x : Watch) (key : String) : List Request := x.session.desk.waitingFor key

/-- The alert of a key whose client the worker waits for. -/
def running (x : Watch) (key : String) : List Request := x.session.desk.runningFor key

def line (w : World) (x : Watch) (key : String) : List Request :=
  x.attempts w key ++ x.waiting key ++ requests key x.pending

/-- The attempts by their ends, the one that has yet to end behind the others. -/
def course (w : World) (x : Watch) (key : String) : List Request :=
  (x.ends w key).map Prod.fst ++ x.running key

/-- An alert of the key falls back to the foreground. -/
def fallsBack (key : String) (x : Watch) : Move → Bool
  | .proceed => x.pending.head?.any (·.key == key) && x.session.desk.room == 0
  | _ => false

/-- It does so while others of the key are queued. -/
def overtakes (key : String) (x : Watch) (move : Move) : Bool :=
  x.fallsBack key move && !(x.waiting key).isEmpty

/-- It does so while the worker waits for the client of another one of the key. -/
def collides (key : String) (x : Watch) (move : Move) : Bool :=
  x.fallsBack key move && !(x.running key).isEmpty

/-- No move of the run is one of these. -/
def avoids (x : Watch) (these : Watch → Move → Bool) : List Move → Bool
  | [] => true
  | move :: rest => !these x move && (x.apply move).avoids these rest

/-- How matters stand in the course of a watch. -/
structure Standing (w : World) (x : Watch) : Prop where
  permitted : x.session.Permitted
  allowed : x.pending ≠ [] → x.session.capabilities.canNotify = true
  composed : ∀ d ∈ x.fired, ∃ n, d = .compose d.key n
  last : x.pending <:+ x.fired
  history : ∃ es, x.session.desk.world.history = w.history ++ es

variable {w : World} {key : String} {x y : Watch}

theorem requests_append (ds es : List Decision) :
    requests key (ds ++ es) = requests key ds ++ requests key es := by
  rw [requests, List.filter_append, List.map_append]
  rfl

/-- For a key only its own alerts matter. -/
theorem part_eq {d : Decision} {n : UInt32} (composed : d = .compose d.key n) :
    part key d.request = requests key [d] := by
  have same : d.request.isAlertFor key = (d.key == key) := by
    rw [composed]
    exact Decision.compose_isAlertFor _ _ _
  cases matters : d.key == key <;> simp [part, requests, same, matters]

/-- What is entered in the journal is added to the attempts and to the ends. -/
theorem Standing.grown (h : Standing w x) (key : String) {es : List Event}
    (grown : y.session.desk.world.history = x.session.desk.world.history ++ es) :
    y.attempts w key = x.attempts w key ++ attemptsFor key es ∧
      y.ends w key = x.ends w key ++ endsFor key es ∧
      ∃ es, y.session.desk.world.history = w.history ++ es := by
  obtain ⟨earlier, before⟩ := h.history
  rw [before, List.append_assoc] at grown
  have since := World.since_of_history grown
  refine ⟨?_, ?_, earlier ++ es, grown⟩
  · rw [attempts, since, attempts, World.since_of_history before, attemptsFor_append]
  · rw [ends, since, ends, World.since_of_history before, endsFor_append]

/-! ## What each move does to line and course -/

/-- A list grew by some requests at its end, and another by the same, in an orderly way at its end. -/
def Follows (rs ts rs' ts' : List Request) (orderly : Bool) : Prop :=
  ∃ new, rs' = rs ++ new ∧ ts'.Perm (ts ++ new) ∧ (orderly = true → ts' = ts ++ new)

theorem Follows.of_eq {rs ts rs' ts' new : List Request} (orderly : Bool) (grown : rs' = rs ++ new)
    (followed : ts' = ts ++ new) : Follows rs ts rs' ts' orderly :=
  ⟨new, grown, .of_eq followed, fun _ => followed⟩

theorem Follows.refl (rs ts : List Request) (orderly : Bool) : Follows rs ts rs ts orderly :=
  .of_eq orderly (List.append_nil _).symm (List.append_nil _).symm

theorem Follows.trans {rs ts rs' ts' rs'' ts'' : List Request} {o o' : Bool}
    (first : Follows rs ts rs' ts' o) (second : Follows rs' ts' rs'' ts'' o') :
    Follows rs ts rs'' ts'' (o && o') := by
  obtain ⟨new, grown, kept, followed⟩ := first
  obtain ⟨more, grown', kept', followed'⟩ := second
  refine ⟨new ++ more, ?_, ?_, fun orderly => ?_⟩
  · rw [grown', grown, List.append_assoc]
  · rw [← List.append_assoc]
    exact kept'.trans (kept.append_right more)
  · obtain ⟨here, there⟩ := Bool.and_eq_true_iff.mp orderly
    rw [followed' there, followed here, List.append_assoc]

/-- The line of a key follows its fires, as long as it is orderly, and the course of its attempts
follows these, as long as it is clear. -/
structure Moved (w : World) (key : String) (x y : Watch) (orderly clear : Bool) : Prop where
  line : Follows (x.fires key) (x.line w key) (y.fires key) (y.line w key) orderly
  course : Follows (x.attempts w key) (x.course w key) (y.attempts w key) (y.course w key) clear

theorem Moved.refl (w : World) (key : String) (x : Watch) (orderly clear : Bool) :
    Moved w key x x orderly clear := ⟨.refl _ _ _, .refl _ _ _⟩

theorem Moved.trans {z : Watch} {o o' c c' : Bool} (first : Moved w key x y o c)
    (second : Moved w key y z o' c') : Moved w key x z (o && o') (c && c') :=
  ⟨first.line.trans second.line, first.course.trans second.course⟩

/-- What the foreground did for a key is added to its attempts or to what waits. Nothing that is tried
beside a running client may come to its end behind it. -/
theorem Standing.carried (h : Standing w x) {tried queued : List Request}
    (carries : Carries key x.session.desk y.session.desk tried queued) (clear : Bool)
    (apart : clear = true → tried = [] ∨ x.running key = []) :
    y.attempts w key = x.attempts w key ++ tried ∧ y.waiting key = x.waiting key ++ queued ∧
      Follows (x.attempts w key) (x.course w key) (y.attempts w key) (y.course w key) clear ∧
      ∃ es, y.session.desk.world.history = w.history ++ es := by
  obtain ⟨⟨es, grown, rfl, ended⟩, client?, queue⟩ := carries
  obtain ⟨attempted, ends, history⟩ := h.grown key grown
  have runs : y.running key = x.running key := by
    rw [Watch.running, Desk.runningFor, client?]
    rfl
  have course : y.course w key = (x.ends w key).map Prod.fst ++ attemptsFor key es ++ x.running key := by
    rw [Watch.course, ends, List.map_append, ended, runs]
  refine ⟨attempted, queue, ⟨attemptsFor key es, attempted, ?_, fun free => ?_⟩, history⟩
  · rw [course, Watch.course, List.append_assoc, List.append_assoc]
    exact List.perm_append_comm.append_left _
  · rw [course, Watch.course]
    rcases apart free with none_tried | none_runs
    · rw [none_tried, List.append_nil, List.append_nil]
    · rw [none_runs, List.append_nil, List.append_nil]

/-- What is new stands at the end of what is to be dispatched, and the rest stays. -/
theorem line_of_pending {new : List Request} (fires : y.fires key = x.fires key ++ new)
    (tried : y.attempts w key = x.attempts w key ++ [])
    (waited : y.waiting key = x.waiting key ++ [])
    (pending : requests key y.pending = requests key x.pending ++ new) :
    Follows (x.fires key) (x.line w key) (y.fires key) (y.line w key) true := by
  refine .of_eq true fires ?_
  rw [line, line, tried, waited, pending, List.append_nil, List.append_nil, List.append_assoc _ _ new]

theorem Standing.side (h : Standing w x) (move : Desk.Move) (side : move.isSide = true) :
    Standing w (x.shifted move) ∧ Moved w key x (x.shifted move) true true := by
  obtain ⟨es, grown, waited, ended⟩ := x.session.desk.passes_side key move side
  obtain ⟨tried, ends, history⟩ := h.grown (y := x.shifted move) key grown
  have waited : attemptsFor key es ++ (x.shifted move).waiting key = x.waiting key := waited
  have ended : (endsFor key es).map Prod.fst ++ (x.shifted move).running key =
      x.running key ++ attemptsFor key es := ended
  refine ⟨⟨h.permitted.onDesk _ _, h.allowed, h.composed, h.last, history⟩,
    ⟨.of_eq true (List.append_nil _).symm ?_, .of_eq true tried ?_⟩⟩
  · rw [line, line, tried, List.append_nil, List.append_assoc (x.attempts w key), waited]
    rfl
  · rw [course, course, ends, List.map_append, List.append_assoc, ended, List.append_assoc]

/-- The end of a poll is only told. -/
theorem Standing.proceed_end (h : Standing w x) (key : String) {p : Poll} (polled : x.poll? = some p)
    (pending : p.pending = []) :
    Standing w (x.proceed p) ∧ Moved w key x (x.proceed p) true true := by
  have before : x.pending = [] := by simp [Watch.pending, polled, pending]
  have ended : ∃ ns, x.proceed p = ⟨x.session.noteAll ns, none, x.fired⟩ := by
    simp only [Watch.proceed, pending]
    split
    · exact ⟨[], rfl⟩
    · exact ⟨[.ticked p.entries p.fired p.delivered], rfl⟩
  obtain ⟨ns, ended⟩ := ended
  have carries : Carries key x.session.desk (x.session.noteAll ns).desk [] [] :=
    carries_noteAll key x.session.desk ns
  obtain ⟨tried, waited, course, history⟩ :=
    h.carried (y := ⟨x.session.noteAll ns, none, x.fired⟩) carries true fun _ => .inl rfl
  rw [ended]
  refine ⟨⟨h.permitted.onDesk _ _, fun left => absurd rfl left, h.composed, List.nil_suffix, history⟩,
    ⟨line_of_pending (List.append_nil _).symm tried waited ?_, course⟩⟩
  rw [before]
  rfl

/-- The next alert joins the queue, or is tried at once. -/
theorem Standing.proceed_alert (h : Standing w x) (key : String) {p : Poll} (polled : x.poll? = some p)
    {alert : Decision} {rest : List Decision} (pending : p.pending = alert :: rest) :
    Standing w (x.proceed p) ∧ (x.proceed p).pending = rest ∧ (x.proceed p).fired = x.fired ∧
      (x.proceed p).attempts w key =
        x.attempts w key ++ (if 0 < x.session.desk.room then [] else requests key [alert]) ∧
      (x.proceed p).waiting key =
        x.waiting key ++ (if 0 < x.session.desk.room then requests key [alert] else []) ∧
      Follows (x.attempts w key) (x.course w key) ((x.proceed p).attempts w key)
        ((x.proceed p).course w key) (!x.collides key .proceed) := by
  have before : x.pending = alert :: rest := by simp [Watch.pending, polled, pending]
  have allowed := h.allowed (by rw [before]; exact List.cons_ne_nil _ _)
  obtain ⟨n, composed⟩ := h.composed alert (h.last.subset (by rw [before]; exact List.mem_cons_self))
  have last : rest <:+ x.fired := (List.suffix_cons alert rest).trans (before ▸ h.last)
  let sent := x.session.desk.dispatch .channelFirst x.session.capabilities x.session.settings alert
  let after : Session := { x.session with desk := sent.1 }
  have carries : Carries key x.session.desk after.desk _ _ :=
    Desk.carries_dispatch key x.session.desk x.session.capabilities x.session.settings alert allowed
  rw [part_eq composed] at carries
  have moved : x.proceed p = ⟨after, some { p with
      pending := rest
      delivered := if sent.2 then p.delivered + 1 else p.delivered }, x.fired⟩ := by
    simp only [Watch.proceed, pending, after, sent]
  -- With room nothing is tried, and neither is anything for a key that the alert is not about.
  have apart : (!x.collides key .proceed) = true →
      (if 0 < x.session.desk.room then [] else requests key [alert]) = [] ∨ x.running key = [] := by
    intro clear
    by_cases free : 0 < x.session.desk.room
    · exact .inl (if_pos free)
    · have full : x.session.desk.room = 0 := by omega
      simp only [collides, fallsBack, before, full] at clear
      cases matters : alert.key == key with
      | false => exact .inl (by simp [requests, matters])
      | true => exact .inr (by simpa [matters] using clear)
  obtain ⟨tried, waited, course, history⟩ :=
    h.carried (y := ⟨after, (x.proceed p).poll?, x.fired⟩) carries _ apart
  rw [moved] at tried waited course ⊢
  exact ⟨⟨h.permitted.onDesk _ _, fun _ => allowed, h.composed, last, history⟩, rfl, rfl, tried, waited,
    course⟩

/-- A poll adds its alerts to the end of every line, any other message nothing. -/
theorem Standing.hear (h : Standing w x) (m : Feed.Message) (free : x.isFree = true) :
    Standing w (x.hear m) ∧ Moved w key x (x.hear m) true true := by
  have idle : x.poll? = none := by simpa using (Bool.and_eq_true_iff.mp free).1
  have before : x.pending = [] := by simp [Watch.pending, idle]
  by_cases poll : ∃ batch, m = .entries batch
  · obtain ⟨batch, rfl⟩ := poll
    let os := (x.session.engine.evaluate batch x.session.settings).2
    let after : Session :=
      { x.session with
        desk := x.session.desk.poll.1.noteAll (os.filterMap Notice.ofObservation?)
        engine := (x.session.engine.evaluate batch x.session.settings).1 }
    let p : Poll := ⟨batch.size, (decisionsOf os).length, decisionsOf os, 0⟩
    have carries : Carries key x.session.desk after.desk [] [] :=
      (Desk.carries_poll key x.session.desk).trans (carries_noteAll key _ _)
    obtain ⟨tried, waited, course, history⟩ :=
      h.carried (y := ⟨after, some p, x.fired ++ decisionsOf os⟩) carries true fun _ => .inl rfl
    have heard : x.hear (.entries batch) = ⟨after, some p, x.fired ++ decisionsOf os⟩ := rfl
    have allowed : decisionsOf os ≠ [] → x.session.capabilities.canNotify = true :=
      fun fired => h.permitted.canNotify (x.session.decisions_enabled batch fired)
    have composed : ∀ d ∈ x.fired ++ decisionsOf os, ∃ n, d = .compose d.key n :=
      List.forall_mem_append.mpr ⟨h.composed, fun _ => composed_of_mem⟩
    rw [heard]
    refine ⟨⟨h.permitted.onDesk _ _, allowed, composed, List.suffix_append _ _, history⟩,
      ⟨line_of_pending (requests_append _ _) tried waited ?_, course⟩⟩
    rw [before]
    rfl
  · have other : ∀ batch, m ≠ .entries batch := fun batch same => poll ⟨batch, same⟩
    have carries := carries_handle key x.session m other
    obtain ⟨tried, waited, course, history⟩ :=
      h.carried (y := ⟨x.session.handle m, x.poll?, x.fired⟩) carries true fun _ => .inl rfl
    have heard : x.hear m = ⟨x.session.handle m, x.poll?, x.fired⟩ := by
      cases m with
      | entries batch => exact absurd rfl (other batch)
      | enable | disable | sound _ | test | status => rfl
    have permitted := handle_permitted x.session m h.permitted
    rw [heard]
    exact ⟨⟨permitted, fun left => absurd before left, h.composed, h.last, history⟩,
      ⟨line_of_pending (List.append_nil _).symm tried waited (List.append_nil _).symm, course⟩⟩

/-- An alert that falls back goes ahead of what waits of its key; else the line stays as it is. -/
theorem Standing.proceed (h : Standing w x) {p : Poll} (polled : x.poll? = some p) :
    Standing w (x.proceed p) ∧
      Moved w key x (x.proceed p) (!x.overtakes key .proceed) (!x.collides key .proceed) := by
  cases pending : p.pending with
  | nil =>
    obtain ⟨standing, moved⟩ := h.proceed_end key polled pending
    have stays : x.fallsBack key .proceed = false := by
      simp [fallsBack, Watch.pending, polled, pending]
    rw [overtakes, collides, stays]
    exact ⟨standing, moved⟩
  | cons alert rest =>
    obtain ⟨standing, rests, fired, tried, waited, course⟩ := h.proceed_alert key polled pending
    have before : x.pending = alert :: rest := by simp [Watch.pending, polled, pending]
    have split : requests key (alert :: rest) = requests key [alert] ++ requests key rest :=
      requests_append [alert] rest
    have fires : (x.proceed p).fires key = x.fires key ++ [] := by
      rw [Watch.fires, fired, List.append_nil]
      rfl
    refine ⟨standing, ?_, course⟩
    by_cases free : 0 < x.session.desk.room
    · refine .of_eq _ fires ?_
      rw [line, line, tried, waited, rests, before, split, if_pos free, if_pos free]
      simp only [List.append_assoc, List.append_nil]
    · rw [if_neg free, List.append_nil] at waited
      rw [if_neg free] at tried
      have ahead : (x.proceed p).line w key =
          x.attempts w key ++ (requests key [alert] ++ x.waiting key) ++ requests key rest := by
        rw [line, tried, waited, rests, ← List.append_assoc]
      have line_eq : x.line w key =
          x.attempts w key ++ (x.waiting key ++ requests key [alert]) ++ requests key rest := by
        rw [line, before, split]
        simp only [List.append_assoc]
      refine ⟨[], fires, ?_, fun orderly => ?_⟩
      · rw [List.append_nil, ahead, line_eq]
        exact (List.perm_append_comm.append_left _).append_right _
      · have nothing : requests key [alert] = [] ∨ x.waiting key = [] := by
          have full : x.session.desk.room = 0 := by omega
          simp only [overtakes, fallsBack, before, full] at orderly
          cases matters : alert.key == key with
          | false => exact .inl (by simp [requests, matters])
          | true => exact .inr (by simpa [matters] using orderly)
        rw [List.append_nil, ahead, line_eq]
        rcases nothing with none_fired | none_waits
        · rw [none_fired, List.nil_append, List.append_nil]
        · rw [none_waits, List.nil_append, List.append_nil]

theorem Standing.apply (h : Standing w x) (key : String) (move : Move) :
    Standing w (x.apply move) ∧
      Moved w key x (x.apply move) (!x.overtakes key move) (!x.collides key move) := by
  cases move with
  | hear m =>
    rw [Watch.apply]
    split
    next free => exact h.hear m free
    next => exact ⟨h, .refl w key x _ _⟩
  | proceed =>
    rw [Watch.apply]
    cases polled : x.poll? with
    | none => exact ⟨h, .refl w key x _ _⟩
    | some p => exact h.proceed polled
  | hangUp =>
    rw [Watch.apply]
    split
    next => exact h.side .hangUp rfl
    next => exact ⟨h, .refl w key x _ _⟩
  | begin => exact h.side .begin rfl
  | take => exact h.side .take rfl
  | finish => exact h.side .finish rfl
  | stop => exact h.side .stop rfl
  | openTone n => exact h.side (.openTone n) rfl

/-! ## Runs -/

theorem Standing.run (h : Standing w x) (key : String) (moves : List Move) :
    Standing w (x.run moves) ∧ Moved w key x (x.run moves) (x.avoids (overtakes key) moves)
      (x.avoids (collides key) moves) := by
  induction moves generalizing x with
  | nil => exact ⟨h, .refl w key x _ _⟩
  | cons move rest ih =>
    obtain ⟨standing, first⟩ := h.apply key move
    obtain ⟨ended, others⟩ := ih standing
    exact ⟨ended, first.trans others⟩

theorem start_standing (w : World) (scope key : String) :
    Standing w (start w scope) ∧ (start w scope).fires key = [] ∧
      (start w scope).line w key = [] ∧ (start w scope).attempts w key = [] ∧
      (start w scope).course w key = [] := by
  obtain ⟨⟨es, grown, tried, ended⟩, client?, queue⟩ := carries_setUp key w scope
  have since : w.since (start w scope).session.desk.world = es := World.since_of_history grown
  have attempted : (start w scope).attempts w key = [] := by rw [attempts, since, tried]
  have waited : (start w scope).waiting key = [] := by
    have empty : (Desk.new w).waitingFor key = [] := rfl
    rw [empty, List.append_nil] at queue
    exact queue
  have runs : (start w scope).running key = [] := by
    rw [running, Desk.runningFor, show (start w scope).session.desk.client? = none from client?]
    rfl
  refine ⟨⟨setUp_permitted w scope, fun left => absurd rfl left, by simp [start], List.nil_suffix,
    es, grown⟩, rfl, ?_, attempted, ?_⟩
  · rw [line, attempted, waited]
    rfl
  · rw [course, ends, since, ended, runs]
    rfl

theorem run_standing (w : World) (scope key : String) (moves : List Move) :
    let begun := start w scope
    let x := begun.run moves
    Standing w x ∧ (x.line w key).Perm (x.fires key) ∧ (x.course w key).Perm (x.attempts w key) ∧
      (begun.avoids (overtakes key) moves = true → x.line w key = x.fires key) ∧
      (begun.avoids (collides key) moves = true → x.course w key = x.attempts w key) := by
  intro begun x
  obtain ⟨standing, unfired, no_line, untried, no_course⟩ := start_standing w scope key
  obtain ⟨ended, ⟨fired, fires, kept, line⟩, ⟨tried, attempts, kept', course⟩⟩ :=
    standing.run key moves
  rw [unfired] at fires
  rw [no_line] at kept line
  rw [untried] at attempts
  rw [no_course] at kept' course
  rw [fires, attempts]
  exact ⟨ended, kept, kept', line, course⟩

/-- Without room an alert is tried ahead of exactly those of its key that wait. -/
theorem Standing.proceed_own (h : Standing w x) {alert : Decision} {rest : List Decision}
    (next : x.pending = alert :: rest) (own : alert.key = key) :
    let y := x.apply .proceed
    (0 < x.session.desk.room →
      y.attempts w key = x.attempts w key ∧ y.waiting key = x.waiting key ++ [alert.request]) ∧
    (x.session.desk.room = 0 →
      y.attempts w key = x.attempts w key ++ [alert.request] ∧ y.waiting key = x.waiting key) := by
  obtain ⟨p, polled, pending⟩ : ∃ p, x.poll? = some p ∧ p.pending = alert :: rest := by
    cases polled : x.poll? with
    | none => simp [Watch.pending, polled] at next
    | some p => exact ⟨p, rfl, by simpa [Watch.pending, polled] using next⟩
  obtain ⟨-, -, -, tried, waited, -⟩ := h.proceed_alert key polled pending
  have moved : x.apply .proceed = x.proceed p := by rw [Watch.apply, polled, Option.elim_some]
  have request : requests key [alert] = [alert.request] := by simp [requests, own]
  rw [request] at tried waited
  simp only [moved]
  constructor
  · intro free
    simpa only [free, if_true, List.append_nil] using And.intro tried waited
  · intro full
    simpa only [full, Nat.lt_irrefl, if_false, List.append_nil] using And.intro tried waited

/-- An alert still to come that overtakes nothing, and is overtaken by nothing, ends up behind all
that went before. -/
theorem Standing.last_attempt (h : Standing w x) {later : List Move}
    (some_left : requests key x.pending ≠ []) (orderly : x.avoids (overtakes key) later = true)
    (none_waits : (x.run later).waiting key = [])
    (none_left : requests key (x.run later).pending = []) :
    ∃ new, new ≠ [] ∧ (x.run later).attempts w key = x.attempts w key ++ new ∧
      new.getLast? = ((x.run later).fires key).getLast? := by
  obtain ⟨-, ⟨new, fires, -, line⟩, -⟩ := h.run key later
  obtain ⟨earlier, before⟩ := h.last
  have split : x.fires key = requests key earlier ++ requests key x.pending := by
    rw [Watch.fires, ← before, requests_append]
  have reached : (x.run later).attempts w key =
      x.attempts w key ++ (x.waiting key ++ (requests key x.pending ++ new)) := by
    have ended := line orderly
    rw [Watch.line, none_waits, none_left, List.append_nil, List.append_nil, Watch.line] at ended
    rw [ended]
    simp only [List.append_assoc]
  have nonempty : requests key x.pending ++ new ≠ [] := by simp [some_left]
  refine ⟨_, List.append_ne_nil_of_right_ne_nil _ nonempty, reached, ?_⟩
  rw [fires, split, List.append_assoc, List.getLast?_append_of_ne_nil _ nonempty,
    List.getLast?_append_of_ne_nil _ nonempty]

/-- Where no two of them collide, that alert is also the last to come to its end. -/
theorem Standing.last_end (h : Standing w x) {later : List Move} {new : List Request} (some_new : new ≠ [])
    (tried : (x.run later).attempts w key = x.attempts w key ++ new)
    (clear : x.avoids (collides key) later = true) (none_runs : (x.run later).running key = []) :
    ((x.run later).ends w key).getLast?.map Prod.fst = new.getLast? := by
  obtain ⟨-, -, ⟨more, attempts, -, course⟩⟩ := h.run key later
  have same : more = new := List.append_cancel_left (attempts.symm.trans tried)
  have ended := course clear
  rw [Watch.course, none_runs, List.append_nil, same] at ended
  rw [← List.getLast?_map, ended, List.getLast?_append_of_ne_nil _ some_new]

/-- An end that was shown, with nothing behind it, is the last that was shown. -/
theorem getLast?_shown {ends : List (Request × Bool)} (last : ends.getLast?.any Prod.snd = true) :
    ((ends.filter Prod.snd).map Prod.fst).getLast? = ends.getLast?.map Prod.fst := by
  cases ends using List.reverseRecOn with
  | nil => rfl
  | append_singleton earlier e =>
    have came : e.2 = true := by simpa using last
    simp [List.filter_append, came]

/-- Each fire of a key is attempted once, from the foreground or by the worker, or is still queued or
to be dispatched, however the two are interleaved, and each attempt comes to one end or its client
still runs. Attempts are made in the order of the fires, as long as no alert of the key falls back to
the foreground while others of the key are queued; one that does is attempted ahead of exactly those.
They end in the order in which they were made, as long as none falls back while a client for the key
runs. Once none waits, the last attempt is that of the latest fire unless its alert fell back in the
first way; once none runs, it is the last to end unless it fell back in the second way, and then what
was shown last is the latest fire if its attempt succeeded. -/
theorem attempts_keep_to_fires (w : World) (scope key : String) (moves : List Move) :
    let begun := start w scope
    let x := begun.run moves
    ((x.attempts w key ++ x.waiting key ++ requests key x.pending).Perm (x.fires key) ∧
      ((x.ends w key).map Prod.fst ++ x.running key).Perm (x.attempts w key)) ∧
    ((begun.avoids (overtakes key) moves = true →
        x.attempts w key ++ x.waiting key ++ requests key x.pending = x.fires key) ∧
      (begun.avoids (collides key) moves = true →
        (x.ends w key).map Prod.fst ++ x.running key = x.attempts w key)) ∧
    (∀ alert rest, x.pending = alert :: rest → alert.key = key →
      let y := x.apply .proceed
      (0 < x.session.desk.room →
        y.attempts w key = x.attempts w key ∧ y.waiting key = x.waiting key ++ [alert.request]) ∧
      (x.session.desk.room = 0 →
        y.attempts w key = x.attempts w key ++ [alert.request] ∧ y.waiting key = x.waiting key)) ∧
    (∀ before later, moves = before ++ later → requests key (begun.run before).pending ≠ [] →
      (begun.run before).avoids (overtakes key) later = true → x.waiting key = [] →
        requests key x.pending = [] →
          (x.attempts w key).getLast? = (x.fires key).getLast? ∧
          ((begun.run before).avoids (collides key) later = true → x.running key = [] →
            (x.ends w key).getLast?.map Prod.fst = (x.fires key).getLast? ∧
            ((x.ends w key).getLast?.any Prod.snd = true →
              (x.shown w key).getLast? = (x.fires key).getLast?))) := by
  intro begun x
  obtain ⟨standing, kept, kept', inOrder, inCourse⟩ := run_standing w scope key moves
  refine ⟨⟨kept, kept'⟩, ⟨inOrder, inCourse⟩, fun alert rest => standing.proceed_own, ?_⟩
  rintro before later rfl some_left orderly none_waits none_left
  obtain ⟨earlier, -, -, -, -⟩ := run_standing w scope key before
  simp only [x, run_append] at none_waits none_left ⊢
  obtain ⟨new, some_new, tried, last⟩ := earlier.last_attempt some_left orderly none_waits none_left
  constructor
  · rw [tried, List.getLast?_append_of_ne_nil _ some_new, last]
  · intro clear none_runs
    have ended := (earlier.last_end some_new tried clear none_runs).trans last
    exact ⟨ended, fun succeeded => (getLast?_shown succeeded).trans ended⟩

/-- A desktop with a client whose runs end in this way, and alerts turned on. -/
def desktopWhere (outcome : Nat → Except IoFault ExitStatus) : World :=
  let client? : Option Desktop.Client := some ⟨"/usr/bin/notify-send", true, outcome⟩
  { outside := ⟨Desktop.platform "http://localhost" client? fun _ => ⟨true, none⟩,
      Desktop.host client?, fun _ => none⟩
    disk := ⟨settingsFile, .file (Settings.record ⟨true, true⟩)⟩
    journal := [] }

/-- Its client always works. -/
def desktop : World := desktopWhere fun _ => .ok (.code 0)

/-- A poll of one key, and all its alerts dispatched. -/
def polled (key : String) (count : UInt32) (alerts : Nat) : List Move :=
  .hear (.entries ((∅ : Batch).insert key (some count))) :: List.replicate (alerts + 1) .proceed

def tested (n : Nat) : List Move := List.replicate n (.hear .test)

/-- The worker shows some requests. -/
def worked (n : Nat) : List Move := .begin :: (List.replicate n [.take, .finish]).flatten

/-- The worker catches up, the queue is filled with tests, and the key fires again. -/
def refired : List Move :=
  polled "a" 1 1 ++ worked 1 ++ polled "a" 0 0 ++ tested 32 ++ (polled "a" 2 1).take 1

/-- There nothing of the key waits or runs when the alert falls back. -/
theorem fallback_in_order :
    let x := (start desktop "").run refired
    let y := (start desktop "").run (refired ++ [.proceed, .proceed])
    (x.apply .proceed).attempts desktop "a" =
      x.attempts desktop "a" ++ [(Decision.compose "a" 2).request] ∧
    y.attempts desktop "a" ++ y.waiting "a" ++ requests "a" y.pending = y.fires "a" ∧
    (y.ends desktop "a").map Prod.fst ++ y.running "a" = y.attempts desktop "a" ∧
    (y.attempts desktop "a").getLast? = (y.fires "a").getLast? ∧
    (y.shown desktop "a").getLast? = (y.fires "a").getLast? := by
  have before : ((start desktop "").run refired).pending = [.compose "a" 2] ∧
      ((start desktop "").run refired).session.desk.room = 0 ∧
      ((start desktop "").run refired).avoids (overtakes "a") [.proceed, .proceed] = true ∧
      ((start desktop "").run refired).avoids (collides "a") [.proceed, .proceed] = true := by
    decide +kernel
  have after : (start desktop "").avoids (overtakes "a") (refired ++ [.proceed, .proceed]) = true ∧
      (start desktop "").avoids (collides "a") (refired ++ [.proceed, .proceed]) = true ∧
      ((start desktop "").run (refired ++ [.proceed, .proceed])).waiting "a" = [] ∧
      requests "a" ((start desktop "").run (refired ++ [.proceed, .proceed])).pending = [] ∧
      ((start desktop "").run (refired ++ [.proceed, .proceed])).running "a" = [] ∧
      (((start desktop "").run (refired ++ [.proceed, .proceed])).ends desktop "a").getLast?.any
        Prod.snd = true := by
    decide +kernel
  obtain ⟨next, full, later, apart⟩ := before
  obtain ⟨orderly, clear, none_waits, none_left, none_runs, succeeded⟩ := after
  have to_come : requests "a" ((start desktop "").run refired).pending ≠ [] := by
    simp [next, requests, Decision.compose]
  obtain ⟨-, -, ahead, -⟩ := attempts_keep_to_fires desktop "" "a" refired
  obtain ⟨-, ⟨inOrder, inCourse⟩, -, last⟩ :=
    attempts_keep_to_fires desktop "" "a" (refired ++ [.proceed, .proceed])
  obtain ⟨-, moved⟩ := ahead _ _ next rfl
  obtain ⟨attempted, ended⟩ := last refired [.proceed, .proceed] rfl to_come later none_waits none_left
  obtain ⟨-, shown⟩ := ended apart none_runs
  exact ⟨(moved full).1, inOrder orderly, inCourse clear, attempted, shown succeeded⟩

/-- The alert of a second fire falls back while that of the first is queued: it is shown first, and in
the end the first takes its place on screen. It falls back while the client of the first runs: that may
show the first after it. Or its own client fails, and the first stays. A manual test takes the place of
the alert for the key whose tag it shares. -/
theorem fallback_overtakes :
    let overtaken := (start desktop "").run
      (polled "a" 1 1 ++ tested 31 ++ polled "a" 0 0 ++ polled "a" 2 1 ++ worked 32)
    let beside := (start desktop "").run
      (polled "a" 1 1 ++ [.begin, .take] ++ tested 32 ++ polled "a" 0 0 ++ polled "a" 2 1 ++ [.finish])
    let flaky := desktopWhere fun n => .ok (.code n)
    let failed := (start flaky "").run
      (polled "a" 1 1 ++ worked 1 ++ polled "a" 0 0 ++ polled "a" 2 1 ++ worked 1)
    let tried := (start desktop "").run (polled "test" 1 1 ++ tested 1 ++ worked 2)
    let fires := [(Decision.compose "a" 1).request, (Decision.compose "a" 2).request]
    (overtaken.fires "a" = fires ∧ overtaken.attempts desktop "a" = fires.reverse ∧
      overtaken.shown desktop "a" = fires.reverse ∧
      overtaken.session.desk.queued = [] ∧ overtaken.running "a" = [] ∧ overtaken.pending = []) ∧
    (beside.fires "a" = fires ∧ beside.attempts desktop "a" = fires ∧
      beside.shown desktop "a" = fires.reverse ∧ beside.waiting "a" = [] ∧ beside.running "a" = []) ∧
    (failed.fires "a" = fires ∧ failed.attempts flaky "a" = fires ∧
      failed.shown flaky "a" = fires.take 1 ∧ failed.waiting "a" = [] ∧ failed.running "a" = []) ∧
    ((desktop.since tried.session.desk.world).filterMap Event.ended? =
        [((Decision.compose "test" 1).request, true), (.manualTest, true)] ∧
      Request.manualTest.tag = tagOf "test") := by
  decide +kernel

end Watch
end AlertRelay
