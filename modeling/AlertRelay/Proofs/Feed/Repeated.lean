import AlertRelay.Proofs.Engine.Members
import AlertRelay.Proofs.Feed.Acceptance

/-!
# A repeated key in one line

The members of a line are collected into a batch before the engine sees them, so of a repeated key the
engine sees the last count alone. A rise that a later member of the same line takes back is not fired.
-/
namespace AlertRelay.Feed

open Json (Value)

/-- A line of counts is one poll. Evaluating it leaves the engine as the members of the line would one
after the other, followed by the keys that were notified and have no member. It fires what the last
member of each key would, in this way, and so for a key that is not repeated what all would. -/
theorem evaluate_entries_line {line : List Char} {v : Value} {ms : List (String × Value)}
    {cs : List (String × Option UInt32)} (one : Json.parse (Text.trim line) = .ok v)
    (given : Gives v .entries (some (.object ms))) (entries : List.Forall₂ IsEntry ms cs) :
    ∃ batch : Batch, Message.ofLine? line = some (.ok (.entries batch)) ∧
      ∀ (e : Engine) (settings : Settings), settings.enabled = true → ∀ gone : List String,
        (∀ key, key ∈ gone ↔ e.isNotified key = true ∧ key ∉ cs.map Prod.fst) →
        (e.evaluate batch settings).1 =
          (Engine.entrySteps settings (cs ++ Engine.missing gone)).foldl Engine.Step.next e ∧
        (decisionsOf (e.evaluate batch settings).2).Perm
          (Engine.fired e (Engine.entrySteps settings (Engine.lastCounts cs ++ Engine.missing gone))) ∧
        (∀ key, (Engine.countsOf key cs).length ≤ 1 →
          (decisionsOf (e.evaluate batch settings).2).filter (·.key = key) =
            (Engine.fired e (Engine.entrySteps settings (cs ++ Engine.missing gone))).filter
              (·.key = key)) ∧
        ((cs.map Prod.fst).Nodup → (decisionsOf (e.evaluate batch settings).2).Perm
          (Engine.fired e (Engine.entrySteps settings (cs ++ Engine.missing gone)))) := by
  obtain ⟨batch, found⟩ := Fields.exists_batch cs
  refine ⟨batch, (Message.ofLine?_eq_ok_iff one).mpr (.entries given entries found), ?_⟩
  intro e settings enabled gone absent
  have perm := Engine.evaluate_perm_lastCounts enabled e gone found
  refine ⟨Engine.evaluate_eq_members enabled e gone found absent, perm, ?_, ?_⟩
  · exact fun key single => Engine.evaluate_of_single_key enabled e gone found single
  · intro distinct
    rwa [Engine.lastCounts_of_nodup distinct] at perm

/-- The rise of the repeated key is over within the line. Nothing is fired, though the members would
fire it one after the other. -/
theorem repeatingLine_hides_rise : Json.parse (Text.trim repeatingLine) = .ok repeatingDocument ∧
    Gives repeatingDocument .entries (some (.object repeatingMembers)) ∧
    List.Forall₂ IsEntry repeatingMembers repeatingCounts ∧
    (∀ key, Engine.new.isNotified key = false) ∧
    ∃ batch : Batch, Message.ofLine? repeatingLine = some (.ok (.entries batch)) ∧
      decisionsOf (Engine.new.evaluate batch ⟨true, false⟩).2 = [] ∧
      Engine.fired .new (Engine.entrySteps ⟨true, false⟩ repeatingCounts) = [.compose "a" 1] := by
  obtain ⟨batch, found⟩ := Fields.exists_batch repeatingCounts
  have message := (Message.ofLine?_eq_ok_iff parse_repeatingLine).mpr
    (.entries repeatingDocument_gives repeatingMembers_counts found)
  have enabled : (⟨true, false⟩ : Settings).enabled = true := rfl
  have last := Engine.evaluate_perm_lastCounts enabled .new [] found
  have silent : Engine.fired .new (Engine.entrySteps ⟨true, false⟩
      (Engine.lastCounts repeatingCounts ++ Engine.missing [])) = [] := by decide +kernel
  rw [silent] at last
  refine ⟨parse_repeatingLine, repeatingDocument_gives, repeatingMembers_counts, ?_, batch, message,
    last.eq_nil, ?_⟩
  · intro key
    simp [Engine.new, Engine.isNotified]
  · decide +kernel

/-- The line is evaluated by a new engine. -/
theorem repeatingLine_evaluated :
    ∃ batch : Batch, Message.ofLine? repeatingLine = some (.ok (.entries batch)) ∧
      (Engine.new.evaluate batch ⟨true, false⟩).1 =
        (Engine.entrySteps ⟨true, false⟩ repeatingCounts).foldl Engine.Step.next .new ∧
      (decisionsOf (Engine.new.evaluate batch ⟨true, false⟩).2).Perm
        (Engine.fired .new (Engine.entrySteps ⟨true, false⟩ [("b", none), ("a", some 0)])) := by
  obtain ⟨batch, message, holds⟩ :=
    evaluate_entries_line parse_repeatingLine repeatingDocument_gives repeatingMembers_counts
  obtain ⟨same, fires, -⟩ := holds .new ⟨true, false⟩ rfl [] (by simp [Engine.new, Engine.isNotified])
  exact ⟨batch, message, same, fires⟩

end AlertRelay.Feed
