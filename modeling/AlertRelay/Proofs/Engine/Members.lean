import AlertRelay.Proofs.Engine.Run

/-!
# A poll against its members one by one

A poll sees the last count of every key, members one after the other show all of them. What is
remembered in the end is the same. What fires for a key are the rises of the counts that were seen, so
it is the same only where nothing was left out.
-/
namespace AlertRelay.Engine

/-! ## Members one after the other -/

/-- Single entries under the same settings. -/
def entrySteps (settings : Settings) (counts : List (String × Option UInt32)) : List Step :=
  counts.map fun c => .entry c.1 c.2 settings

/-- Keys without a count. -/
def missing (keys : List String) : List (String × Option UInt32) := keys.map fun key => (key, none)

/-- The counts of a key, first to last. -/
def countsOf (key : String) (counts : List (String × Option UInt32)) : List (Option UInt32) :=
  counts.filterMap fun c => if c.1 = key then some c.2 else none

/-- The last member of every key, in the order of the text. -/
def lastCounts : List (String × Option UInt32) → List (String × Option UInt32)
  | [] => []
  | c :: rest => if c.1 ∈ rest.map Prod.fst then lastCounts rest else c :: lastCounts rest

theorem countsOf_cons (key k : String) (count : Option UInt32)
    (rest : List (String × Option UInt32)) : countsOf key ((k, count) :: rest) =
      if k = key then count :: countsOf key rest else countsOf key rest := by
  rw [countsOf, List.filterMap_cons]
  by_cases same : k = key <;> simp [same, countsOf]

theorem countsOf_append (key : String) (first second : List (String × Option UInt32)) :
    countsOf key (first ++ second) = countsOf key first ++ countsOf key second :=
  List.filterMap_append

theorem countsOf_lastCounts (key : String) (counts : List (String × Option UInt32)) :
    countsOf key (lastCounts counts) = (lastCount? key counts).toList := by
  induction counts with
  | nil => rfl
  | cons c rest ih =>
    obtain ⟨k, count⟩ := c
    rw [lastCounts, lastCount?_cons]
    by_cases same : k = key
    · subst same
      by_cases later : k ∈ rest.map Prod.fst
      · obtain ⟨last, found⟩ := exists_lastCount? later
        rw [if_pos later, ih, found]
        rfl
      · have none := lastCount?_eq_none_iff_not_mem.mpr later
        rw [if_neg later, countsOf_cons, if_pos rfl, if_pos rfl, ih, none]
        rfl
    · rw [if_neg same, Option.or_none, ← ih]
      split
      · rfl
      · rw [countsOf_cons, if_neg same]

theorem lastCounts_of_nodup {counts : List (String × Option UInt32)}
    (distinct : (counts.map Prod.fst).Nodup) : lastCounts counts = counts := by
  induction counts with
  | nil => rfl
  | cons c rest ih =>
    obtain ⟨fresh, distinct⟩ := List.nodup_cons.mp distinct
    rw [lastCounts, if_neg fresh, ih distinct]

theorem not_positive_of_missing {key : String} {keys : List String} :
    ∀ count ∈ countsOf key (missing keys), isPositive count = false := by
  intro count member
  obtain ⟨c, inside, same⟩ := List.mem_filterMap.mp member
  obtain ⟨k, -, rfl⟩ := List.mem_map.mp inside
  split at same
  · cases same
    rfl
  · cases same

/-- Where nothing is positive nothing rises. -/
theorem rises_of_not_positive {counts : List (Option UInt32)}
    (none_positive : ∀ count ∈ counts, isPositive count = false) (up : Bool) : rises up counts = [] := by
  induction counts generalizing up with
  | nil => rfl
  | cons count rest ih =>
    obtain ⟨here, none_positive⟩ := List.forall_mem_cons.mp none_positive
    rw [rises, here, Bool.false_and, if_neg Bool.false_ne_true, ih none_positive]

theorem rises_append_of_not_positive {more : List (Option UInt32)}
    (none_positive : ∀ count ∈ more, isPositive count = false) (counts : List (Option UInt32))
    (up : Bool) : rises up (counts ++ more) = rises up counts := by
  induction counts generalizing up with
  | nil => exact rises_of_not_positive none_positive up
  | cons count rest ih => rw [List.cons_append, rises, rises, ih, ih]

theorem perm_of_keys {first second : List Decision}
    (same : ∀ key, first.filter (·.key = key) = second.filter (·.key = key)) : first.Perm second := by
  refine List.perm_iff_count.mpr fun d => ?_
  have counted (ds : List Decision) : ds.count d = (ds.filter (·.key = d.key)).count d :=
    (List.count_filter (by simp)).symm
  rw [counted first, counted second, same d.key]

theorem ext_isNotified {e f : Engine} (same : ∀ key, e.isNotified key = f.isNotified key) : e = f := by
  cases e
  cases f
  exact congrArg Engine.mk (Std.ExtTreeSet.ext_contains same)

variable {settings : Settings} (enabled : settings.enabled = true) (e : Engine)
include enabled

theorem sightings_entrySteps (key : String) (counts : List (String × Option UInt32)) :
    sightings key (entrySteps settings counts) = countsOf key counts := by
  rw [sightings, entrySteps, List.filterMap_map, countsOf]
  refine List.filterMap_congr fun c _ => ?_
  simp [Step.sighting?, Step.isEnabled, enabled]

theorem foldl_entrySteps (counts : List (String × Option UInt32)) :
    (entrySteps settings counts).foldl Step.next e = (e.observeAll counts).1 := by
  induction counts generalizing e with
  | nil => rfl
  | cons c rest ih =>
    have one : Step.next e (.entry c.1 c.2 settings) = (e.observe c.1 c.2).1 := by
      simp [Step.next, Step.apply, evaluateEntry, enabled, observeAll]
    rw [entrySteps, List.map_cons, List.foldl_cons, one]
    exact ih (e.observe c.1 c.2).1

/-- What members fire for a key, keys without a count behind them. -/
theorem fired_entrySteps (key : String) (counts : List (String × Option UInt32))
    (gone : List String) :
    (fired e (entrySteps settings (counts ++ missing gone))).filter (·.key = key) =
      (rises (e.isNotified key) (countsOf key counts)).map (Decision.compose key) := by
  rw [fired_of_key, sightings_entrySteps enabled, countsOf_append,
    rises_append_of_not_positive not_positive_of_missing]

/-- What a poll fires for a key. -/
theorem decisionsOf_evaluate_of_key (batch : Batch) (key : String) :
    (decisionsOf (e.evaluate batch settings).2).filter (·.key = key) =
      (rises (e.isNotified key) batch[key]?.toList).map (Decision.compose key) := by
  have fires := decisions_of_key e (.poll batch settings) key
  have seen : Step.sighting? key (.poll batch settings) = some batch[key]?.join := by
    simp [Step.sighting?, Step.isEnabled, enabled]
  rw [Step.decisions, Step.apply, seen] at fires
  rw [fires]
  cases batch[key]? with
  | none => rfl
  | some count =>
    simp only [Option.join_some, Option.toList_some, rises]
    split <;> rfl

variable {batch : Batch} {counts : List (String × Option UInt32)} (gone : List String)

/-- A poll of the last counts leaves the engine as all of them would. -/
theorem evaluate_eq_members (found : ∀ key : String, batch[key]? = lastCount? key counts)
    (absent : ∀ key, key ∈ gone ↔ e.isNotified key = true ∧ key ∉ counts.map Prod.fst) :
    (e.evaluate batch settings).1 =
      (entrySteps settings (counts ++ missing gone)).foldl Step.next e := by
  have same : ∀ key, (e.evaluate batch settings).1.isNotified key =
      ((entrySteps settings (counts ++ missing gone)).foldl Step.next e).isNotified key := by
    intro key
    rw [evaluate_isNotified e batch settings enabled, foldl_entrySteps enabled, observeAll_isNotified,
      lastCount?_append, missing, lastCount?_map_none, found]
    -- A key with a member is decided by the last one, any other by whether it was notified.
    cases last : lastCount? key counts with
    | some count =>
      have kept : key ∉ gone := by
        intro member
        rw [lastCount?_eq_none_iff_not_mem.mpr ((absent key).mp member).2] at last
        cases last
      rw [if_neg kept]
      rfl
    | none =>
      have fresh := lastCount?_eq_none_iff_not_mem.mp last
      split
      · rfl
      next kept =>
        have idle : e.isNotified key = false := by
          by_contra notified
          exact kept ((absent key).mpr ⟨by simpa using notified, fresh⟩)
        rw [idle]
        rfl
  exact ext_isNotified same

/-- A poll fires what the last counts do one by one. -/
theorem evaluate_perm_lastCounts (found : ∀ key : String, batch[key]? = lastCount? key counts) :
    (decisionsOf (e.evaluate batch settings).2).Perm
      (fired e (entrySteps settings (lastCounts counts ++ missing gone))) := by
  refine perm_of_keys fun key => ?_
  rw [decisionsOf_evaluate_of_key enabled, fired_entrySteps enabled, countsOf_lastCounts, found]

/-- For a key that is not repeated a poll fires what all its members do one by one. -/
theorem evaluate_of_single_key (found : ∀ key : String, batch[key]? = lastCount? key counts)
    {key : String} (single : (countsOf key counts).length ≤ 1) :
    (decisionsOf (e.evaluate batch settings).2).filter (·.key = key) =
      (fired e (entrySteps settings (counts ++ missing gone))).filter (·.key = key) := by
  have last : (lastCount? key counts).toList = countsOf key counts := by
    rw [lastCount?, ← countsOf]
    rcases seen : countsOf key counts with _ | ⟨count, _ | ⟨other, more⟩⟩
    · rfl
    · rfl
    · simp [seen] at single
  rw [decisionsOf_evaluate_of_key enabled, fired_entrySteps enabled, found, last]

end AlertRelay.Engine
