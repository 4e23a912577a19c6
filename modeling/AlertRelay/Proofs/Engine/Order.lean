import AlertRelay.Notice
import AlertRelay.Proofs.Engine.Members

/-!
# The order inside a poll

What is seen of a key depends on that key alone, so counts for different keys can be observed in any
order: two neighbours change places, and from that any reordering follows. A poll observes each key at
most once, the missing ones among them, so its order is free. Only the order in which the keys are come
upon that alerted and are missing is left to the set that they are kept in; nothing fires for them, and
it shows in messages for debugging alone.
-/
namespace AlertRelay.Engine

/-! ## Counts for different keys -/

/-- What comes of a count depends on what is remembered of its key alone. -/
theorem observe_congr {e f : Engine} {key : String} (same : e.isNotified key = f.isNotified key)
    (count : Option UInt32) : (e.observe key count).2 = (f.observe key count).2 := by
  simp only [observe, transition_of, same]

theorem observe_after {key k : String} (different : k ≠ key) (e : Engine) (c count : Option UInt32) :
    ((e.observe k c).1.observe key count).2 = (e.observe key count).2 :=
  observe_congr (by rw [observe_isNotified, if_neg different]) count

/-- Counts for two keys leave the same behind in either order. -/
theorem observe_comm {key k : String} (different : k ≠ key) (e : Engine) (c count : Option UInt32) :
    ((e.observe k c).1.observe key count).1 = ((e.observe key count).1.observe k c).1 := by
  refine ext_isNotified fun other => ?_
  simp only [observe_isNotified]
  by_cases first : key = other
  · subst first
    rw [if_pos rfl, if_neg different, if_pos rfl]
  · rw [if_neg first, if_neg first]

/-- Counts for different keys can be observed in any order. -/
theorem observeAll_perm {counts counts' : List (String × Option UInt32)} (same : counts.Perm counts')
    (distinct : (counts.map Prod.fst).Nodup) (e : Engine) :
    (e.observeAll counts).1 = (e.observeAll counts').1 ∧
      (e.observeAll counts).2.Perm (e.observeAll counts').2 := by
  induction same generalizing e with
  | nil => exact ⟨rfl, .refl _⟩
  | cons c _ ih =>
    obtain ⟨engine, seen⟩ := ih (List.nodup_cons.mp distinct).2 (e.observe c.1 c.2).1
    exact ⟨engine, seen.cons _⟩
  | swap c c' rest =>
    have different : c'.1 ≠ c.1 := by
      rintro equal
      simp [equal] at distinct
    simp only [observeAll, observe_after different, observe_after different.symm,
      observe_comm different]
    exact ⟨trivial, .swap _ _ _⟩
  | trans first _ ih ih' =>
    have distinct' := (first.map Prod.fst).nodup_iff.mp distinct
    obtain ⟨engine, seen⟩ := ih distinct e
    obtain ⟨engine', seen'⟩ := ih' distinct' e
    exact ⟨engine.trans engine', seen.trans seen'⟩

theorem observeAll_append (first second : List (String × Option UInt32)) (e : Engine) :
    e.observeAll (first ++ second) =
      (((e.observeAll first).1.observeAll second).1,
        (e.observeAll first).2 ++ ((e.observeAll first).1.observeAll second).2) := by
  induction first generalizing e with
  | nil => rfl
  | cons c rest ih => simp only [List.cons_append, observeAll, ih]

/-! ## The counts of a poll -/

/-- The keys that a poll comes upon as missing are those that were notified before it and have no
count in it. -/
theorem vanished_observed (e : Engine) (batch : Batch) :
    ((e.observeAll batch.toList).1.vanished batch).Perm (e.vanished batch) := by
  refine (List.perm_ext_iff_of_nodup (vanished_nodup _ _) (vanished_nodup _ _)).mpr fun key => ?_
  rw [mem_vanished, mem_vanished, and_congr_left_iff]
  intro absent
  rw [observeAll_isNotified, lastCount?_toList, absent]
  rfl

/-- A poll has at most one count for a key. -/
theorem poll_counts_nodup (e : Engine) (batch : Batch) :
    ((batch.toList ++ missing (e.vanished batch)).map Prod.fst).Nodup := by
  have named : (missing (e.vanished batch)).map Prod.fst = e.vanished batch := by
    simp [missing, Function.comp_def]
  rw [List.map_append, named, List.nodup_append]
  refine ⟨batch_keys_nodup batch, vanished_nodup e batch, ?_⟩
  rintro key member _ gone rfl
  obtain ⟨⟨_, count⟩, inside, rfl⟩ := List.mem_map.mp member
  have found := Std.ExtTreeMap.mem_toList_iff_getElem?_eq_some.mp inside
  have absent := (mem_vanished.mp gone).2
  rw [found] at absent
  cases absent

/-- Keys that are notified are reset where they are missing. -/
theorem observeAll_missing {gone : List String} (distinct : gone.Nodup) {e : Engine}
    (notified : ∀ key ∈ gone, e.isNotified key = true) :
    (e.observeAll (missing gone)).2 = gone.map fun key => ⟨key, none, .reset⟩ := by
  induction gone generalizing e with
  | nil => rfl
  | cons key rest ih =>
    obtain ⟨fresh, distinct⟩ := List.nodup_cons.mp distinct
    obtain ⟨here, notified⟩ := List.forall_mem_cons.mp notified
    have later : ∀ k ∈ rest, (e.observe key none).1.isNotified k = true := by
      intro k member
      have different : key ≠ k := by
        rintro rfl
        exact fresh member
      rw [observe_isNotified, if_neg different, notified k member]
    have reset : (e.observe key none).2 = ⟨key, none, .reset⟩ := by
      simp only [observe, transition_of, here, isPositive_none]
    rw [List.map_cons, ← ih distinct later, ← reset]
    rfl

/-- A poll that comes upon the missing keys in a given order. -/
def evaluateInOrder (e : Engine) (batch : Batch) (settings : Settings) (gone : List String) :
    Engine × List Observation :=
  if settings.enabled then
    let (e, seen) := e.observeAll batch.toList
    let (e, unseen) := e.observeAll (missing gone)
    (e, seen ++ unseen)
  else (e, [])

theorem evaluate_eq_inOrder (e : Engine) (batch : Batch) (settings : Settings) :
    e.evaluate batch settings =
      e.evaluateInOrder batch settings ((e.observeAll batch.toList).1.vanished batch) := rfl

/-! ## What is told -/

/-- The messages for some observations. -/
def noticesOf (os : List Observation) : List Notice := os.filterMap Notice.ofObservation?

theorem noticesOf_append (os os' : List Observation) :
    noticesOf (os ++ os') = noticesOf os ++ noticesOf os' := List.filterMap_append

/-- What is observed along a run from an engine on. -/
def observedAlong (e : Engine) : List Step → List Observation
  | [] => []
  | step :: rest => (step.apply e).2 ++ observedAlong (step.next e) rest

theorem decisionsOf_append (os os' : List Observation) :
    decisionsOf (os ++ os') = decisionsOf os ++ decisionsOf os' := List.filterMap_append

theorem fired_eq (steps : List Step) (e : Engine) :
    fired e steps = decisionsOf (observedAlong e steps) := by
  induction steps generalizing e with
  | nil => rfl
  | cons step rest ih =>
    rw [fired, ih, observedAlong, decisionsOf_append]
    rfl

section Enabled
variable {settings : Settings} (enabled : settings.enabled = true) (e : Engine) (batch : Batch)
include enabled

theorem observedAlong_entrySteps (counts : List (String × Option UInt32)) :
    observedAlong e (entrySteps settings counts) = (e.observeAll counts).2 := by
  induction counts generalizing e with
  | nil => rfl
  | cons c rest ih =>
    have one : Step.apply e (.entry c.1 c.2 settings) =
        ((e.observe c.1 c.2).1, [(e.observe c.1 c.2).2]) := by
      simp [Step.apply, evaluateEntry, enabled, observeAll]
    rw [entrySteps, List.map_cons, observedAlong, Step.next, one]
    exact congrArg _ (ih (e.observe c.1 c.2).1)

theorem evaluateInOrder_eq (gone : List String) :
    e.evaluateInOrder batch settings gone = e.observeAll (batch.toList ++ missing gone) := by
  rw [observeAll_append, evaluateInOrder, if_pos enabled]

theorem poll_reordered {counts : List (String × Option UInt32)}
    (same : counts.Perm (batch.toList ++ missing (e.vanished batch))) :
    (e.observeAll counts).1 = (e.evaluate batch settings).1 ∧
      (e.observeAll counts).2.Perm (e.evaluate batch settings).2 := by
  have same' := same.trans (((vanished_observed e batch).symm.map _).append_left batch.toList)
  have distinct := (same.map Prod.fst).nodup_iff.mpr (poll_counts_nodup e batch)
  rw [evaluate_eq_inOrder, evaluateInOrder_eq enabled]
  exact observeAll_perm same' distinct e

/-- What is observed where the missing keys are come upon in some order. -/
theorem evaluateInOrder_observed {gone : List String}
    (same : gone.Perm ((e.observeAll batch.toList).1.vanished batch)) :
    (e.evaluateInOrder batch settings gone).2 =
      (e.observeAll batch.toList).2 ++ gone.map fun key => ⟨key, none, .reset⟩ := by
  have distinct := same.nodup_iff.mpr (vanished_nodup _ batch)
  have notified : ∀ key ∈ gone, (e.observeAll batch.toList).1.isNotified key = true :=
    fun key member => (mem_vanished.mp (same.mem_iff.mp member)).1
  rw [evaluateInOrder_eq enabled, observeAll_append, observeAll_missing distinct notified]

/-- The order in which the missing keys are come upon shows in messages for debugging alone. -/
theorem evaluateInOrder_told {gone : List String}
    (same : gone.Perm ((e.observeAll batch.toList).1.vanished batch)) :
    decisionsOf (e.evaluateInOrder batch settings gone).2 =
        decisionsOf (e.observeAll batch.toList).2 ∧
      noticesOf (e.evaluateInOrder batch settings gone).2 =
        noticesOf (e.observeAll batch.toList).2 ++ gone.map .entryReset := by
  have silent : decisionsOf (gone.map fun key => ⟨key, none, .reset⟩) = [] := by
    simp [decisionsOf, Observation.decision?]
  have told : noticesOf (gone.map fun key => ⟨key, none, .reset⟩) = gone.map .entryReset := by
    rw [noticesOf, List.filterMap_map]
    exact congrFun List.filterMap_eq_map gone
  rw [evaluateInOrder_observed enabled e batch same, decisionsOf_append, noticesOf_append, silent, told,
    List.append_nil]
  exact ⟨rfl, rfl⟩

/-- While alerts are enabled the order inside a poll does not matter. Single entries for the members
of the batch and, without a count, for the keys that were notified and are missing from it leave the
engine as the poll does, in whatever order they come, and fire and tell the same, each as often. The
poll itself is the same in whatever order it comes upon the missing keys, the order of its messages
for debugging apart. -/
theorem poll_in_any_order :
    (∀ counts : List (String × Option UInt32),
      counts.Perm (batch.toList ++ missing (e.vanished batch)) →
      (entrySteps settings counts).foldl Step.next e = (e.evaluate batch settings).1 ∧
      (fired e (entrySteps settings counts)).Perm (decisionsOf (e.evaluate batch settings).2) ∧
      (noticesOf (observedAlong e (entrySteps settings counts))).Perm
        (noticesOf (e.evaluate batch settings).2)) ∧
    ∀ gone : List String, gone.Perm ((e.observeAll batch.toList).1.vanished batch) →
      (e.evaluateInOrder batch settings gone).1 = (e.evaluate batch settings).1 ∧
      decisionsOf (e.evaluateInOrder batch settings gone).2 =
        decisionsOf (e.evaluate batch settings).2 ∧
      (noticesOf (e.evaluateInOrder batch settings gone).2).Perm
        (noticesOf (e.evaluate batch settings).2) ∧
      (noticesOf (e.evaluateInOrder batch settings gone).2).filter (·.level ≠ .debug) =
        (noticesOf (e.evaluate batch settings).2).filter (·.level ≠ .debug) := by
  refine ⟨fun counts same => ?_, fun gone same => ?_⟩
  · obtain ⟨engine, seen⟩ := poll_reordered enabled e batch same
    rw [foldl_entrySteps enabled, fired_eq, observedAlong_entrySteps enabled]
    exact ⟨engine, seen.filterMap _, seen.filterMap _⟩
  · have counted : (batch.toList ++ missing gone).Perm (batch.toList ++ missing (e.vanished batch)) :=
      ((same.trans (vanished_observed e batch)).map _).append_left _
    obtain ⟨decisions, notices⟩ := evaluateInOrder_told enabled e batch same
    obtain ⟨decisions', notices'⟩ := evaluateInOrder_told enabled e batch (.refl _)
    have quiet (keys : List String) :
        (keys.map Notice.entryReset).filter (·.level ≠ .debug) = [] := by
      simp [Notice.level]
    rw [evaluateInOrder_eq enabled, (poll_reordered enabled e batch counted).1,
      ← evaluateInOrder_eq enabled, evaluate_eq_inOrder, decisions, decisions', notices, notices',
      List.filter_append, List.filter_append, quiet, quiet]
    exact ⟨rfl, rfl, (same.map _).append_left _, rfl⟩

end Enabled

/-- Two keys are missing, one still has warnings and one rose: the single entries come with the missing
ones first and last, the poll comes upon these the other way round. -/
theorem poll_in_another_order :
    let settings : Settings := ⟨true, true⟩
    let e : Engine := ⟨.ofList ["lost", "kept", "gone"]⟩
    let batch : Batch := .ofList [("risen", some (1 : UInt32)), ("kept", some 2), ("zero", some 0)]
    let counts : List (String × Option UInt32) := [("lost", none), ("risen", some 1), ("zero", some 0),
      ("kept", some 2), ("gone", none)]
    (entrySteps settings counts).foldl Step.next e = (e.evaluate batch settings).1 ∧
      (fired e (entrySteps settings counts)).Perm (decisionsOf (e.evaluate batch settings).2) ∧
      (noticesOf (observedAlong e (entrySteps settings counts))).Perm
        (noticesOf (e.evaluate batch settings).2) ∧
      (e.evaluateInOrder batch settings ["lost", "gone"]).1 = (e.evaluate batch settings).1 ∧
      decisionsOf (e.evaluate batch settings).2 = [.compose "risen" 1] ∧
      noticesOf (e.evaluate batch settings).2 = [.entrySuppressed "kept", .entryFired "risen" 1,
        .entryReset "gone", .entryReset "lost"] ∧
      noticesOf (e.evaluateInOrder batch settings ["lost", "gone"]).2 = [.entrySuppressed "kept",
        .entryFired "risen" 1, .entryReset "lost", .entryReset "gone"] := by
  intro settings e batch counts
  obtain ⟨entries, inOrder⟩ := poll_in_any_order (rfl : settings.enabled = true) e batch
  obtain ⟨engine, decisions, notices⟩ := entries counts (by decide +kernel)
  exact ⟨engine, decisions, notices, (inOrder ["lost", "gone"] (by decide +kernel)).1,
    by decide +kernel, by decide +kernel, by decide +kernel⟩

end AlertRelay.Engine
