import AlertRelay.Engine
import Mathlib.Data.List.Basic

/-!
# What one observation and one poll do to the engine

After a count was seen for a key, the key counts as notified exactly when the count was positive,
whatever was remembered before. A list of counts is then decided by the last one for each key, and
a poll, which observes every key that could matter, leaves exactly its positive keys behind.
-/
namespace AlertRelay

def isPositive (count : Option UInt32) : Bool := count.any (0 < ·)

theorem isPositive_iff {count : Option UInt32} :
    isPositive count = true ↔ ∃ n, count = some n ∧ 0 < n := by
  cases count <;> simp [isPositive]

@[simp] theorem isPositive_none : isPositive none = false := rfl

theorem observed_eq_zero_iff (count : Option UInt32) :
    observed count = 0 ↔ isPositive count = false := by
  cases count with
  | none => simp [observed]
  | some n => simp [observed, isPositive, UInt32.pos_iff_ne_zero]

theorem composed_of_mem {os : List Observation} {d : Decision} (member : d ∈ decisionsOf os) :
    ∃ n, d = .compose d.key n := by
  obtain ⟨o, -, decided⟩ := List.mem_filterMap.mp member
  unfold Observation.decision? at decided
  split at decided
  · cases decided
    exact ⟨_, rfl⟩
  · cases decided

namespace Engine

theorem stateOf_eq (e : Engine) (key : String) :
    e.stateOf key = if e.isNotified key then .notified else .idle := rfl

theorem transition_of (e : Engine) (key : String) (count : Option UInt32) :
    Transition.of (e.stateOf key) count =
      match e.isNotified key, isPositive count with
      | true, false => .reset
      | true, true => .suppressed
      | false, false => .unchanged
      | false, true => .fire := by
  cases hn : e.isNotified key <;> cases hp : isPositive count <;>
    simp [stateOf_eq, Transition.of, observed_eq_zero_iff, hn, hp]

/-- What is remembered of a key follows the last count seen for it; other keys are left alone. -/
theorem observe_isNotified (e : Engine) (key : String) (count : Option UInt32) (k : String) :
    (e.observe key count).1.isNotified k = if key = k then isPositive count else e.isNotified k := by
  have hmem : e.isNotified k = e.notified.contains k := rfl
  by_cases hk : key = k
  · subst hk
    simp only [observe, transition_of, if_true]
    cases hn : e.isNotified key <;> cases hp : isPositive count <;>
      simp_all [apply, isNotified]
  · simp only [observe, transition_of, if_neg hk]
    cases e.isNotified key <;> cases isPositive count <;>
      simp [apply, isNotified, hk, Std.ExtTreeSet.contains_insert, Std.ExtTreeSet.contains_erase]

/-- A count fires when it is positive and its key was not remembered. -/
theorem observe_decision? (e : Engine) (key : String) (count : Option UInt32) :
    (e.observe key count).2.decision? =
      if isPositive count && !e.isNotified key then some (.compose key (observed count)) else none := by
  simp only [observe, transition_of, Observation.decision?]
  cases e.isNotified key <;> cases isPositive count <;> simp

/-- The last count for a key. -/
def lastCount? (key : String) (counts : List (String × Option UInt32)) : Option (Option UInt32) :=
  (counts.filterMap fun c => if c.1 = key then some c.2 else none).getLast?

theorem lastCount?_cons (k key : String) (count : Option UInt32)
    (rest : List (String × Option UInt32)) :
    lastCount? k ((key, count) :: rest) =
      (lastCount? k rest).or (if key = k then some count else none) := by
  by_cases hk : key = k
  · simp only [lastCount?, List.filterMap_cons, if_pos hk, List.getLast?_cons]
    cases (rest.filterMap fun c => if c.1 = k then some c.2 else none).getLast? <;> rfl
  · simp [lastCount?, hk]

theorem mem_of_lastCount? {key : String} {counts : List (String × Option UInt32)}
    {count : Option UInt32} (h : lastCount? key counts = some count) : (key, count) ∈ counts := by
  obtain ⟨⟨k, c⟩, member, same⟩ := List.mem_filterMap.mp (List.mem_of_getLast? h)
  split at same
  next hk =>
    cases hk
    cases same
    exact member
  next => cases same

theorem lastCount?_eq_none_iff {key : String} {counts : List (String × Option UInt32)} :
    lastCount? key counts = none ↔ ∀ count, (key, count) ∉ counts := by
  simp only [lastCount?, List.getLast?_eq_none_iff, List.filterMap_eq_nil_iff]
  constructor
  · intro h count member
    simpa using h _ member
  · rintro h ⟨k, c⟩ member
    by_cases hk : k = key
    · exact absurd (hk ▸ member) (h c)
    · simp [hk]

theorem lastCount?_eq_none_iff_not_mem {key : String} {counts : List (String × Option UInt32)} :
    lastCount? key counts = none ↔ key ∉ counts.map Prod.fst := by
  rw [lastCount?_eq_none_iff]
  constructor
  · intro absent member
    obtain ⟨⟨k, count⟩, inside, rfl⟩ := List.mem_map.mp member
    exact absent count inside
  · intro absent count inside
    exact absent (List.mem_map_of_mem inside)

theorem exists_lastCount? {key : String} {counts : List (String × Option UInt32)}
    (member : key ∈ counts.map Prod.fst) : ∃ count, lastCount? key counts = some count :=
  Option.ne_none_iff_exists'.mp fun absent => lastCount?_eq_none_iff_not_mem.mp absent member

theorem lastCount?_append (key : String) (first second : List (String × Option UInt32)) :
    lastCount? key (first ++ second) = (lastCount? key second).or (lastCount? key first) := by
  rw [lastCount?, List.filterMap_append, List.getLast?_append]
  rfl

/-- The last count of a key among keys without one. -/
theorem lastCount?_map_none (keys : List String) (key : String) :
    lastCount? key (keys.map fun k => (k, none)) = if key ∈ keys then some none else none := by
  have named : (keys.map fun k => (k, (none : Option UInt32))).map Prod.fst = keys := by
    simp [Function.comp_def]
  split
  next member =>
    obtain ⟨count, found⟩ := exists_lastCount? (named.symm ▸ member)
    obtain ⟨_, _, same⟩ := List.mem_map.mp (mem_of_lastCount? found)
    rw [found, ← (Prod.mk.inj same).2]
  next absent => rwa [lastCount?_eq_none_iff_not_mem, named]

/-- The counts of a batch, in whatever order they are listed. -/
theorem lastCount?_of_perm {counts : List (String × Option UInt32)} {batch : Batch}
    (same : counts.Perm batch.toList) (key : String) : lastCount? key counts = batch[key]? := by
  cases h : lastCount? key counts with
  | some count =>
    have member := same.mem_iff.mp (mem_of_lastCount? h)
    exact (Std.ExtTreeMap.mem_toList_iff_getElem?_eq_some.mp member).symm
  | none =>
    cases hb : batch[key]? with
    | none => rfl
    | some count =>
      have member := Std.ExtTreeMap.mem_toList_iff_getElem?_eq_some.mpr hb
      exact absurd (same.mem_iff.mpr member) (lastCount?_eq_none_iff.mp h count)

theorem lastCount?_toList (batch : Batch) (key : String) :
    lastCount? key batch.toList = batch[key]? := lastCount?_of_perm (.refl _) key

/-- Of several counts for a key the last one decides. -/
theorem observeAll_isNotified (counts : List (String × Option UInt32)) (e : Engine) (k : String) :
    (e.observeAll counts).1.isNotified k =
      ((lastCount? k counts).map isPositive).getD (e.isNotified k) := by
  induction counts generalizing e with
  | nil => rfl
  | cons c rest ih =>
    obtain ⟨key, count⟩ := c
    simp only [observeAll, ih, observe_isNotified, lastCount?_cons]
    cases lastCount? k rest with
    | some _ => rfl
    | none => by_cases hk : key = k <;> simp [hk]

/-- Counts for different keys do not get in each other's way. -/
theorem decisionsOf_observeAll (counts : List (String × Option UInt32)) (e : Engine)
    (distinct : (counts.map Prod.fst).Nodup) :
    decisionsOf (e.observeAll counts).2 =
      (counts.filter fun c => isPositive c.2 && !e.isNotified c.1).map
        fun c => .compose c.1 (observed c.2) := by
  induction counts generalizing e with
  | nil => rfl
  | cons c rest ih =>
    obtain ⟨key, count⟩ := c
    obtain ⟨fresh, distinct⟩ := List.nodup_cons.mp distinct
    have same : ∀ c ∈ rest, (isPositive c.2 && !(e.observe key count).1.isNotified c.1) =
        (isPositive c.2 && !e.isNotified c.1) := by
      intro c member
      have different : key ≠ c.1 := by
        intro equal
        exact fresh (List.mem_map.mpr ⟨c, member, equal.symm⟩)
      rw [observe_isNotified, if_neg different]
    have tail := ih (e.observe key count).1 distinct
    rw [List.filter_congr same] at tail
    simp only [decisionsOf] at tail ⊢
    by_cases fires : (isPositive count && !e.isNotified key) = true
    · simp only [observeAll, List.filterMap_cons, observe_decision?, if_pos fires, tail,
        List.filter_cons, List.map_cons]
    · simp only [observeAll, List.filterMap_cons, observe_decision?, if_neg fires, tail,
        List.filter_cons]

/-- Missing and zero counts fire nothing. -/
theorem decisionsOf_observeAll_of_not_positive (counts : List (String × Option UInt32))
    (e : Engine) (none_positive : ∀ c ∈ counts, isPositive c.2 = false) :
    decisionsOf (e.observeAll counts).2 = [] := by
  induction counts generalizing e with
  | nil => rfl
  | cons c rest ih =>
    obtain ⟨key, count⟩ := c
    have head : isPositive count = false := none_positive (key, count) (by simp)
    have tail := ih (e.observe key count).1 (fun c member => none_positive c (by simp [member]))
    simpa [decisionsOf, observeAll, observe_decision?, head] using tail

theorem mem_vanished {e : Engine} {batch : Batch} {key : String} :
    key ∈ e.vanished batch ↔ e.isNotified key = true ∧ batch[key]? = none := by
  have absent : batch[key]? = none ↔ batch.contains key = false := by
    rw [← Option.not_isSome_iff_eq_none, Std.ExtTreeMap.isSome_getElem?_eq_contains,
      Bool.not_eq_true]
  simp [absent, vanished, isNotified]

theorem notified_nodup (e : Engine) : e.notified.toList.Nodup :=
  Std.ExtTreeSet.distinct_toList.imp fun different same =>
    different (by rw [same]; exact Std.ReflOrd.compare_self)

theorem vanished_nodup (e : Engine) (batch : Batch) : (e.vanished batch).Nodup :=
  e.notified_nodup.filter _

theorem lastCount?_missing (e : Engine) (batch : Batch) (key : String) :
    lastCount? key ((e.vanished batch).map fun k => (k, none)) =
      if e.isNotified key = true ∧ batch[key]? = none then some none else none := by
  simp only [lastCount?_map_none, mem_vanished]

/-- A poll observes every key that could matter, so nothing of the past remains. -/
theorem evaluate_isNotified (e : Engine) (batch : Batch) (settings : Settings)
    (enabled : settings.enabled = true) (key : String) :
    (e.evaluate batch settings).1.isNotified key = isPositive batch[key]?.join := by
  simp only [evaluate, enabled, if_true, observeAll_isNotified, lastCount?_missing,
    lastCount?_toList]
  cases batch[key]? with
  | some count => simp
  | none => cases e.isNotified key <;> simp

theorem batch_keys_nodup (batch : Batch) : (batch.toList.map Prod.fst).Nodup := by
  rw [List.nodup_iff_pairwise_ne, List.pairwise_map]
  exact (Std.ExtTreeMap.distinct_keys_toList (t := batch)).imp fun different same =>
    different (by rw [same]; exact Std.ReflOrd.compare_self)

/-- What a poll fires: the positive keys of the batch that were not remembered, in the order of the
batch. The keys that are missing from it fire nothing. -/
theorem decisionsOf_evaluate (e : Engine) (batch : Batch) (settings : Settings)
    (enabled : settings.enabled = true) :
    decisionsOf (e.evaluate batch settings).2 =
      (batch.toList.filter fun c => isPositive c.2 && !e.isNotified c.1).map
        fun c => .compose c.1 (observed c.2) := by
  have missing : decisionsOf ((e.observeAll batch.toList).1.observeAll
      (((e.observeAll batch.toList).1.vanished batch).map fun key => (key, none))).2 = [] :=
    decisionsOf_observeAll_of_not_positive _ _ (by simp)
  have seen := decisionsOf_observeAll batch.toList e (batch_keys_nodup batch)
  simp only [evaluate, enabled, if_true]
  simp only [decisionsOf, List.filterMap_append] at seen missing ⊢
  rw [missing, seen, List.append_nil]

theorem evaluate_of_disabled (e : Engine) (batch : Batch) (settings : Settings)
    (disabled : settings.enabled = false) : e.evaluate batch settings = (e, []) := by
  simp [evaluate, disabled]

theorem evaluateEntry_of_disabled (e : Engine) (key : String) (count : Option UInt32)
    (settings : Settings) (disabled : settings.enabled = false) :
    e.evaluateEntry key count settings = (e, []) := by
  simp [evaluateEntry, disabled]

theorem evaluateEntry_isNotified (e : Engine) (key : String) (count : Option UInt32)
    (settings : Settings) (enabled : settings.enabled = true) (k : String) :
    (e.evaluateEntry key count settings).1.isNotified k =
      if key = k then isPositive count else e.isNotified k := by
  simp [evaluateEntry, enabled, observeAll, observe_isNotified]

theorem decisionsOf_evaluateEntry (e : Engine) (key : String) (count : Option UInt32)
    (settings : Settings) (enabled : settings.enabled = true) :
    decisionsOf (e.evaluateEntry key count settings).2 =
      if isPositive count && !e.isNotified key then [.compose key (observed count)] else [] := by
  simp only [evaluateEntry, enabled, if_true]
  rw [decisionsOf_observeAll _ _ (by simp)]
  simp only [List.filter_cons, List.filter_nil]
  split <;> rfl

/-- How many keys are remembered after a poll. -/
theorem evaluate_size (e : Engine) (batch : Batch) (settings : Settings)
    (enabled : settings.enabled = true) :
    (e.evaluate batch settings).1.notified.size =
      (batch.toList.filter fun c => isPositive c.2).length := by
  have distinct : ((batch.toList.filter fun c => isPositive c.2).map Prod.fst).Nodup :=
    (batch_keys_nodup batch).sublist (List.filter_sublist.map _)
  have unique := (e.evaluate batch settings).1.notified_nodup
  have same : ∀ key, key ∈ (e.evaluate batch settings).1.notified.toList ↔
      key ∈ (batch.toList.filter fun c => isPositive c.2).map Prod.fst := by
    intro key
    have poll := evaluate_isNotified e batch settings enabled key
    rw [Std.ExtTreeSet.mem_toList, ← Std.ExtTreeSet.contains_iff_mem]
    change (e.evaluate batch settings).1.isNotified key = true ↔ _
    rw [poll]
    cases hb : batch[key]? with
    | none => simp [hb]
    | some count => simp [hb]
  rw [← Std.ExtTreeSet.length_toList, ← List.length_map Prod.fst]
  exact ((List.perm_ext_iff_of_nodup unique distinct).mpr same).length_eq

end Engine
end AlertRelay
