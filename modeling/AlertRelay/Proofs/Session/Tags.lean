import AlertRelay.Proofs.Alert
import AlertRelay.Proofs.Session.Licence

/-!
# What the tag of a request tells

A request is made for the alert of a key or for a manual test, and on screen a later one takes the
place of an earlier one with the same tag. The tag of an alert is its key behind a fixed word, so
tags tell any two keys apart. The tag of a manual test has the same form; it is that of one key, and
only the title tells these two apart.
-/
namespace AlertRelay

/-- What a request is made for. -/
inductive Source where
  | alert (key : String)
  | manualTest
  deriving DecidableEq, Repr

namespace Source

def tag : Source → String
  | alert key => tagOf key
  | manualTest => Request.manualTest.tag

def title : Source → String
  | alert key => "Detection alert: " ++ key
  | manualTest => Request.manualTest.title

/-- The key whose alerts share their tag with manual tests. -/
def sharedKey : String := "test"

/-- The key that a tag is made from. -/
def tagKey : Source → String
  | alert key => key
  | manualTest => sharedKey

theorem tag_eq (source : Source) : source.tag = tagOf source.tagKey := by
  cases source with
  | alert key => rfl
  | manualTest => decide +kernel

/-- An alert and a manual test under one tag. -/
def Clash (a b : Source) : Prop :=
  (a = alert sharedKey ∧ b = manualTest) ∨ (a = manualTest ∧ b = alert sharedKey)

/-- Tags tell sources apart, but for the one clash. -/
theorem tag_eq_iff (a b : Source) : a.tag = b.tag ↔ a = b ∨ a.Clash b := by
  rw [tag_eq, tag_eq, tagOf_inj]
  cases a <;> cases b <;> simp [tagKey, Clash, eq_comm]

/-- Titles tell sources apart. -/
theorem title_inj {a b : Source} (same : a.title = b.title) : a = b := by
  have apart (key : String) : (alert key).title ≠ manualTest.title := by
    intro equal
    have word : "Detection alert: ".toList = 'D' :: "etection alert: ".toList := by decide +kernel
    have ofTest : manualTest.title.toList = 'T' :: "est notification".toList := by decide +kernel
    have ofAlert : (alert key).title.toList = 'D' :: ("etection alert: ".toList ++ key.toList) :=
      String.toList_append.trans (congrArg (· ++ key.toList) word)
    have heads := (List.cons.inj (ofAlert.symm.trans ((congrArg String.toList equal).trans ofTest))).1
    exact absurd heads (by decide)
  cases a with
  | alert key =>
    cases b with
    | alert key' => rw [(String.append_right_inj "Detection alert: ").mp same]
    | manualTest => exact absurd same (apart key)
  | manualTest =>
    cases b with
    | alert key => exact absurd same.symm (apart key)
    | manualTest => rfl

end Source

namespace Event

/-- Nothing is handed over but some of these. -/
def hands (rs : List Request) (e : Event) : Bool := e.handed?.all fun r => decide (r ∈ rs)

theorem hands_of_handed {rs : List Request} {e : Event} {r : Request} (h : e.handed? = some r)
    (member : r ∈ rs) : e.hands rs = true := by
  simpa [hands, h] using member

theorem hands_of_isFeedback {rs : List Request} {e : Event} (h : e.isFeedback = true) :
    e.hands rs = true := by
  cases e <;> first | rfl | cases h

theorem hands_of_not_isHandover {e : Event} (h : e.isHandover = false) : e.hands [] = true := by
  cases e <;> first | rfl | cases h

end Event

/-- The requests handed over, in order. -/
def handedIn (es : List Event) : List Request := es.filterMap Event.handed?

theorem handedIn_append (es fs : List Event) : handedIn (es ++ fs) = handedIn es ++ handedIn fs :=
  List.filterMap_append

/-- What was entered handed over nothing but these. -/
theorem World.Enters.handedIn {w v : World} {rs : List Request} (h : w.Enters (Event.hands rs) v) :
    ∀ r ∈ handedIn (w.since v), r ∈ rs := by
  obtain ⟨-, fine⟩ := h.since
  intro r member
  obtain ⟨e, entered, handed⟩ := List.mem_filterMap.mp member
  have allowed := fine e entered
  rw [Event.hands, handed] at allowed
  simpa using allowed

namespace Session

open World (Enters enters_enterAll)

/-- What a step may hand a request over for, and the request. -/
def occasions (s : Session) : Step → List (Source × Request)
  | .processBatch batch =>
      (s.processBatch batch).2.decisions.map fun d => (.alert d.key, d.request)
  | .test => [(.manualTest, .manualTest)]
  | _ => []

/-- A step hands a request over, and this is what for. -/
def Emits (s : Session) (step : Step) (source : Source) (r : Request) : Prop :=
  (source, r) ∈ s.occasions step ∧ r ∈ handedIn (s.entries step)

theorem occasions_spec {s : Session} {step : Step} {source : Source} {r : Request}
    (h : (source, r) ∈ s.occasions step) : r.tag = source.tag ∧ r.title = source.title := by
  cases step with
  | processBatch batch =>
    obtain ⟨d, member, same⟩ := List.mem_map.mp h
    cases same
    rw [processBatch_eq] at member
    obtain ⟨n, composed⟩ := composed_of_mem member
    rw [composed]
    exact ⟨rfl, rfl⟩
  | test =>
    cases List.mem_singleton.mp h
    exact ⟨rfl, rfl⟩
  | _ => cases h

theorem apply_hands (s : Session) (step : Step) :
    s.desk.world.Enters (Event.hands ((s.occasions step).map Prod.snd)) (step.apply s).desk.world := by
  cases step with
  | processBatch batch =>
    change s.desk.world.Enters _ (s.processBatch batch).1.desk.world
    have requests : (s.occasions (.processBatch batch)).map Prod.snd =
        (s.processBatch batch).2.decisions.map Decision.request := by simp [occasions]
    rw [requests, processBatch_eq]
    refine (enters_enterAll s.desk.world _ ?_).trans (Desk.dispatchAll_enters (fun _ => rfl) _ ?_ ?_ _)
    · simp [Event.hands, Event.handed?]
    · exact fun _ alert member _ handed =>
        Event.hands_of_handed handed (List.mem_map_of_mem member)
    · exact fun _ _ _ => Event.hands_of_isFeedback
  | test =>
    refine Desk.test_enters (fun _ => rfl) (fun _ _ handed => ?_) (fun _ => Event.hands_of_isFeedback) _
    exact Event.hands_of_handed handed (List.mem_singleton.mpr rfl)
  | _ =>
    refine (s.apply_enters _).mono fun e may => Event.hands_of_not_isHandover ?_
    exact Bool.eq_false_iff.mpr fun handed => nomatch (Step.mayEnter_handover may handed).1

/-- Whatever a step hands over is handed over for something. -/
theorem exists_emits {s : Session} {step : Step} {r : Request} (h : r ∈ handedIn (s.entries step)) :
    ∃ source, s.Emits step source r := by
  obtain ⟨⟨source, _⟩, member, rfl⟩ := List.mem_map.mp ((s.apply_hands step).handedIn r h)
  exact ⟨source, member, h⟩

/-- In the course of some steps a request was handed over, and this is what for. -/
def Issues (s : Session) (steps : List Step) (source : Source) (r : Request) : Prop :=
  ∃ before step later, steps = before ++ step :: later ∧ (s.after before).Emits step source r

theorem Issues.extend {s : Session} {steps : List Step} {source : Source} {r : Request}
    (h : s.Issues steps source r) (step : Step) : s.Issues (steps ++ [step]) source r := by
  obtain ⟨before, now, later, rfl, emitted⟩ := h
  exact ⟨before, now, later ++ [step], by simp, emitted⟩

theorem Issues.spec {s : Session} {steps : List Step} {source : Source} {r : Request}
    (h : s.Issues steps source r) : r.tag = source.tag ∧ r.title = source.title := by
  obtain ⟨_, _, _, -, occasion, -⟩ := h
  exact occasions_spec occasion

/-- A start hands nothing over. -/
theorem start_hands (w : World) (scope : String) :
    w.Enters (Event.hands []) (start w scope).desk.world := by
  have opened : w.Enters (Event.hands []) (w.enterAll (openingEntries w)) := by
    refine enters_enterAll w _ ?_
    unfold openingEntries World.loadEntries
    split <;> simp [Event.hands, Event.handed?]
  have settled := reconcile_enters (w.enterAll (openingEntries w)) w.offer w.stored
  rw [start_eq]
  exact opened.trans (settled.mono fun e record =>
    Event.hands_of_not_isHandover (Event.of_isApart (Event.isApart_of_isRecord record)).1)

theorem exists_issues (w : World) (scope : String) (steps : List Step) :
    ∀ r ∈ handedIn (w.since ((start w scope).after steps).desk.world),
      ∃ source, (start w scope).Issues steps source r := by
  have started := start_hands w scope
  induction steps using List.reverseRecOn with
  | nil => exact fun r member => absurd (started.handedIn r member) (by simp)
  | append_singleton steps step ih =>
    -- What the last step handed over it did for something, and so did the steps before it.
    have opened : w.Enters (fun _ => true) (start w scope).desk.world :=
      started.mono fun _ _ => rfl
    have run := opened.trans (((start w scope).after_enters steps).mono fun _ _ => rfl)
    intro r member
    rw [after_append, run.since_trans (apply_enters _ step), handedIn_append, List.mem_append]
      at member
    rcases member with earlier | now
    · obtain ⟨source, issued⟩ := ih r earlier
      exact ⟨source, issued.extend step⟩
    · obtain ⟨source, emitted⟩ := exists_emits now
      exact ⟨source, steps, step, [], rfl, emitted⟩

/-- In every session, whatever its keys are and however its requests go out: each request is handed
over for one source, which its title tells. Two of them carry the same tag exactly if they have the
same source, or one is an alert of the one key whose tag a manual test has too, and the other is a
manual test. -/
theorem tags_tell_sources_apart (w : World) (scope : String) (steps : List Step) :
    (∀ r ∈ handedIn (w.since ((start w scope).after steps).desk.world),
      ∃! source, (start w scope).Issues steps source r) ∧
    ∀ source source' r r', (start w scope).Issues steps source r →
      (start w scope).Issues steps source' r' →
        (r.tag = r'.tag ↔ source = source' ∨ source.Clash source') := by
  constructor
  · intro r member
    obtain ⟨source, issued⟩ := exists_issues w scope steps r member
    refine ⟨source, issued, fun other issued' => Source.title_inj ?_⟩
    rw [← issued.spec.2, ← issued'.spec.2]
  · intro source source' r r' issued issued'
    rw [issued.spec.1, issued'.spec.1]
    exact source.tag_eq_iff source'

/-- Permission is granted and alerts are on from the start, and there is no channel. -/
def grantedWorld : World where
  outside := ⟨Scripted.platform ⟨⟨true, true, .granted⟩, none, false, false, false⟩,
    Scripted.host false, fun _ => none⟩
  disk := ⟨settingsFile, .file (Settings.record ⟨true, true⟩)⟩
  journal := []

/-- The entry of the clashing key rises from zero, and the user tries a manual test. -/
def clashingSteps : List Step :=
  [.processBatch ((∅ : Batch).insert Source.sharedKey (some 1)), .test]

/-- There an alert and a manual test, shown one after the other, carry the same tag. -/
theorem alert_and_test_under_one_tag :
    (start grantedWorld "").Issues clashingSteps (.alert Source.sharedKey)
        (Decision.compose Source.sharedKey 1).request ∧
      (start grantedWorld "").Issues clashingSteps .manualTest .manualTest ∧
      ¬ ((Decision.compose Source.sharedKey 1).request.tag = Request.manualTest.tag ↔
        Source.alert Source.sharedKey = .manualTest) := by
  refine ⟨⟨[], _, [.test], rfl, ?_, ?_⟩, ⟨[.processBatch _], .test, [], rfl, ?_, ?_⟩, ?_⟩
  · decide +kernel
  · decide +kernel
  · decide +kernel
  · decide +kernel
  · decide +kernel

end Session
end AlertRelay
