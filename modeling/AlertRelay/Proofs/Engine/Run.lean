import AlertRelay.Proofs.Engine.Observation
import AlertRelay.Proofs.Text.Order
import Mathlib.Data.List.Induction

/-!
# Runs of the engine

A run mixes polls and single entries, each under settings of its own. What is remembered after it
is a function of the observations alone: a key is notified exactly when the last count observed for
it was positive. So a key fires once for each rise of its counts and never in between; steps taken
while alerts are disabled observe nothing and leave no trace.
-/
namespace AlertRelay.Engine

inductive Step where
  | poll (batch : Batch) (settings : Settings)
  | entry (key : String) (count : Option UInt32) (settings : Settings)

namespace Step

def isEnabled : Step → Bool
  | poll _ settings | entry _ _ settings => settings.enabled

def apply (e : Engine) : Step → Engine × List Observation
  | poll batch settings => e.evaluate batch settings
  | entry key count settings => e.evaluateEntry key count settings

def next (e : Engine) (step : Step) : Engine := (step.apply e).1

def decisions (e : Engine) (step : Step) : List Decision := decisionsOf (step.apply e).2

/-- The count that a step observes of a key; `none` if the step is no observation of it. A poll
observes every key, without a count where the batch has none. -/
def sighting? (key : String) (step : Step) : Option (Option UInt32) :=
  if step.isEnabled then
    match step with
    | poll batch _ => some batch[key]?.join
    | entry k count _ => if k = key then some count else none
  else none

end Step

/-- What was observed of a key, oldest first. -/
def sightings (key : String) (steps : List Step) : List (Option UInt32) :=
  steps.filterMap (Step.sighting? key)

def run (steps : List Step) : Engine := steps.foldl Step.next .new

/-- Everything fired along a run from an engine on. -/
def fired (e : Engine) : List Step → List Decision
  | [] => []
  | step :: rest => step.decisions e ++ fired (step.next e) rest

/-- The positive counts that follow a count that was not; `up` is how it stood before. -/
def rises (up : Bool) : List (Option UInt32) → List UInt32
  | [] => []
  | count :: rest =>
      if isPositive count && !up then observed count :: rises true rest
      else rises (isPositive count) rest

theorem next_of_disabled (e : Engine) (step : Step) (disabled : step.isEnabled = false) :
    step.next e = e ∧ step.decisions e = [] := by
  cases step with
  | poll batch settings =>
    simp [Step.next, Step.decisions, Step.apply, decisionsOf,
      evaluate_of_disabled e batch settings disabled]
  | entry key count settings =>
    simp [Step.next, Step.decisions, Step.apply, decisionsOf,
      evaluateEntry_of_disabled e key count settings disabled]

/-- One step moves a key to what it observes of it, if it does. -/
theorem next_isNotified (e : Engine) (step : Step) (key : String) :
    (step.next e).isNotified key =
      ((step.sighting? key).map isPositive).getD (e.isNotified key) := by
  cases enabled : step.isEnabled with
  | false => simp [next_of_disabled e step enabled, Step.sighting?, enabled]
  | true =>
    cases step with
    | poll batch settings =>
      simp [Step.next, Step.apply, Step.sighting?, enabled,
        evaluate_isNotified e batch settings enabled]
    | entry k count settings =>
      simp only [Step.next, Step.apply, Step.sighting?, enabled, if_true,
        evaluateEntry_isNotified e k count settings enabled]
      split <;> rfl

theorem run_isNotified (steps : List Step) (key : String) :
    (run steps).isNotified key = ((sightings key steps).getLast?.any isPositive) := by
  induction steps using List.reverseRecOn with
  | nil => simp [run, sightings, isNotified, new]
  | append_singleton steps step ih =>
    have last : (run (steps ++ [step])).isNotified key =
        ((step.sighting? key).map isPositive).getD ((run steps).isNotified key) := by
      simpa [run] using next_isNotified (run steps) step key
    rw [last, ih]
    simp only [sightings, List.filterMap_append, List.filterMap_cons, List.filterMap_nil]
    cases step.sighting? key <;> simp

/-- What one step fires, told by the observations alone. -/
theorem mem_decisions_iff (e : Engine) (step : Step) (d : Decision) :
    d ∈ step.decisions e ↔ ∃ key n, step.sighting? key = some (some n) ∧ 0 < n ∧
      e.isNotified key = false ∧ d = .compose key n := by
  cases enabled : step.isEnabled with
  | false => simp [next_of_disabled e step enabled, Step.sighting?, enabled]
  | true =>
    cases step with
    | poll batch settings =>
      simp only [Step.decisions, Step.apply, Step.sighting?, enabled, if_true,
        decisionsOf_evaluate e batch settings enabled, List.mem_map, List.mem_filter,
        Bool.and_eq_true, isPositive_iff, Bool.not_eq_true', Option.some.injEq]
      constructor
      · rintro ⟨⟨key, count⟩, ⟨member, ⟨n, rfl, pos⟩, idle⟩, rfl⟩
        have seen := Std.ExtTreeMap.mem_toList_iff_getElem?_eq_some.mp member
        exact ⟨key, n, by simp [seen], pos, idle, rfl⟩
      · rintro ⟨key, n, seen, pos, idle, rfl⟩
        have member := Option.join_eq_some_iff.mp seen
        exact ⟨(key, some n), ⟨Std.ExtTreeMap.mem_toList_iff_getElem?_eq_some.mpr member,
          ⟨n, rfl, pos⟩, idle⟩, rfl⟩
    | entry k count settings =>
      simp only [Step.decisions, Step.apply, Step.sighting?, enabled, if_true,
        decisionsOf_evaluateEntry e k count settings enabled]
      constructor
      · intro member
        split at member
        next fires =>
          simp only [Bool.and_eq_true, isPositive_iff, Bool.not_eq_true'] at fires
          obtain ⟨⟨n, rfl, pos⟩, idle⟩ := fires
          exact ⟨k, n, by simp, pos, idle, List.mem_singleton.mp member⟩
        next => cases member
      · rintro ⟨key, n, seen, pos, idle, rfl⟩
        split at seen
        next hk =>
          cases hk
          cases seen
          have fires : (isPositive (some n) && !e.isNotified k) = true := by
            simp [idle, isPositive, pos]
          rw [if_pos fires]
          exact List.mem_singleton_self _
        next => cases seen

/-- The keys that one step fires for, in the order of their octets. -/
theorem decisions_sorted (e : Engine) (step : Step) :
    (step.decisions e).Pairwise fun a b =>
      Text.Utf8.encode a.key.toList < Text.Utf8.encode b.key.toList := by
  cases enabled : step.isEnabled with
  | false => simp [next_of_disabled e step enabled]
  | true =>
    cases step with
    | poll batch settings =>
      rw [Step.decisions, Step.apply, decisionsOf_evaluate e batch settings enabled,
        List.pairwise_map]
      refine (List.Pairwise.imp ?_ Std.ExtTreeMap.ordered_keys_toList).filter _
      intro a b before
      have less : a.1 < b.1 := compareOfLessAndEq_eq_lt.mp before
      exact Text.Utf8.encode_lt_of_lt less
    | entry k count settings =>
      rw [Step.decisions, Step.apply, decisionsOf_evaluateEntry e k count settings enabled]
      split <;> simp

theorem decisions_keys_nodup (e : Engine) (step : Step) :
    ((step.decisions e).map Decision.key).Nodup := by
  rw [List.nodup_iff_pairwise_ne, List.pairwise_map]
  refine (decisions_sorted e step).imp ?_
  intro a b less same
  rw [same] at less
  exact List.lt_irrefl _ less

theorem filter_key_of_nodup {ds : List Decision} (distinct : (ds.map Decision.key).Nodup)
    {d : Decision} (member : d ∈ ds) : ds.filter (·.key = d.key) = [d] := by
  induction ds with
  | nil => cases member
  | cons a rest ih =>
    obtain ⟨fresh, distinct⟩ := List.nodup_cons.mp distinct
    rcases List.mem_cons.mp member with rfl | later
    · have others : rest.filter (·.key = d.key) = [] := by
        simp only [List.filter_eq_nil_iff, decide_eq_true_eq]
        intro x hx same
        exact fresh (same ▸ List.mem_map_of_mem hx)
      simp [others]
    · have different : a.key ≠ d.key := by
        intro same
        exact fresh (same ▸ List.mem_map_of_mem later)
      simp [different, ih distinct later]

/-- What one step fires for a key: at most one alert, and only on a rise. -/
theorem decisions_of_key (e : Engine) (step : Step) (key : String) :
    (step.decisions e).filter (·.key = key) =
      match step.sighting? key with
      | some count =>
          if isPositive count && !e.isNotified key then [.compose key (observed count)] else []
      | none => [] := by
  cases seen : step.sighting? key with
  | none =>
    simp only [List.filter_eq_nil_iff, decide_eq_true_eq]
    rintro d member rfl
    obtain ⟨k, n, hk, _, _, rfl⟩ := (mem_decisions_iff e step d).mp member
    simp [Decision.compose] at seen
    simp [seen] at hk
  | some count =>
    by_cases rise : (isPositive count && !e.isNotified key) = true
    · simp only [if_pos rise]
      simp only [Bool.and_eq_true, isPositive_iff, Bool.not_eq_true'] at rise
      obtain ⟨⟨n, rfl, pos⟩, idle⟩ := rise
      have member := (mem_decisions_iff e step (.compose key n)).mpr ⟨key, n, seen, pos, idle, rfl⟩
      exact filter_key_of_nodup (decisions_keys_nodup e step) member
    · simp only [if_neg rise, List.filter_eq_nil_iff, decide_eq_true_eq]
      rintro d member rfl
      obtain ⟨k, n, hk, pos, idle, rfl⟩ := (mem_decisions_iff e step d).mp member
      apply rise
      have same : count = some n := Option.some.inj (seen.symm.trans hk)
      simp only [Bool.and_eq_true, isPositive_iff, Bool.not_eq_true']
      exact ⟨⟨n, same, pos⟩, idle⟩

/-- The alerts of one key along a run are its rises, whatever the other keys do. -/
theorem fired_of_key (steps : List Step) (e : Engine) (key : String) :
    (fired e steps).filter (·.key = key) =
      (rises (e.isNotified key) (sightings key steps)).map (Decision.compose key) := by
  induction steps generalizing e with
  | nil => rfl
  | cons step rest ih =>
    rw [fired, List.filter_append, decisions_of_key, ih, next_isNotified]
    cases seen : step.sighting? key with
    | none => simp [sightings, seen]
    | some count =>
      simp only [sightings, List.filterMap_cons, seen, rises, Option.map_some, Option.getD_some]
      by_cases rise : (isPositive count && !e.isNotified key) = true
      · have up : isPositive count = true := (Bool.and_eq_true_iff.mp rise).1
        rw [if_pos rise, if_pos rise, up]
        rfl
      · rw [if_neg rise, if_neg rise]
        rfl

/-- Along any run, under settings that change at will: a key is notified exactly when the last
count observed for it was positive; a step fires exactly the keys that it observes positive and
that were not notified, each once and in the order of their octets; so a key's alerts are the rises
of its counts. A step taken while alerts are disabled changes and fires nothing, and after a poll
with alerts enabled as many keys are notified as the batch has positive ones. -/
theorem run_fires_on_each_rise (steps : List Step) (step : Step) :
    (∀ key, (run steps).isNotified key = true ↔
      ∃ n, (sightings key steps).getLast? = some (some n) ∧ 0 < n) ∧
    (∀ d, d ∈ step.decisions (run steps) ↔ ∃ key n, step.sighting? key = some (some n) ∧ 0 < n ∧
      (run steps).isNotified key = false ∧ d = .compose key n) ∧
    ((step.decisions (run steps)).map Decision.key).Nodup ∧
    ((step.decisions (run steps)).Pairwise fun a b =>
      Text.Utf8.encode a.key.toList < Text.Utf8.encode b.key.toList) ∧
    (∀ key, (fired .new steps).filter (·.key = key) =
      (rises false (sightings key steps)).map (Decision.compose key)) ∧
    (step.isEnabled = true ∨ step.next (run steps) = run steps ∧ step.decisions (run steps) = []) ∧
    (∀ batch settings, ((run steps).evaluate batch settings).1.notified.size =
      if settings.enabled then (batch.toList.filter fun c => isPositive c.2).length
      else (run steps).notified.size) := by
  refine ⟨?_, mem_decisions_iff _ _, decisions_keys_nodup _ _, decisions_sorted _ _, ?_, ?_, ?_⟩
  · intro key
    rw [run_isNotified, Option.any_eq_true]
    simp only [isPositive_iff]
    constructor
    · rintro ⟨_, last, n, rfl, pos⟩
      exact ⟨n, last, pos⟩
    · rintro ⟨n, last, pos⟩
      exact ⟨_, last, n, rfl, pos⟩
  · intro key
    have idle : new.isNotified key = false := by simp [new, isNotified]
    rw [fired_of_key, idle]
  · cases enabled : step.isEnabled with
    | true => exact Or.inl rfl
    | false => exact Or.inr (next_of_disabled _ _ enabled)
  · intro batch settings
    cases enabled : settings.enabled with
    | true => simp [evaluate_size _ batch settings enabled]
    | false => simp [evaluate_of_disabled _ batch settings enabled]

end AlertRelay.Engine
