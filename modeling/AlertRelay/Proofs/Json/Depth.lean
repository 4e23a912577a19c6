import AlertRelay.Proofs.Json.Reading

/-!
# How deep a document may be

The reader refuses a container that would be open together with too many others. So the parts that it
keeps are never too deep for the place they stand at, which every lexeme preserves, and a document that
was read is not too deep. A text then holds a document exactly where it is made of its tokens and the
document is not too deep.
-/
namespace AlertRelay.Json

theorem Value.depth_array_le {items : List Value} {n : Nat} (each : ∀ v ∈ items, v.depth ≤ n) :
    (array items).depth ≤ n + 1 := by
  rw [depth]
  refine Nat.succ_le_succ ?_
  induction items with
  | nil => exact Nat.zero_le n
  | cons v rest ih =>
    obtain ⟨first, each⟩ := List.forall_mem_cons.mp each
    exact Nat.max_le.mpr ⟨first, ih each⟩

namespace State

/-- Parts are not too deep inside so many containers. -/
structure Fit (level : Nat) (parts : List Value) : Prop where
  open_containers : level ≤ deepest
  each : ∀ v ∈ parts, level + v.depth ≤ deepest

/-- What the containers hold so far, innermost first. -/
def framesFit : List Frame → Prop
  | [] => True
  | .array _ items :: up => Fit (up.length + 1) (items.map (·.value)) ∧ framesFit up
  | .object _ members _ _ :: up => Fit (up.length + 1) (members.map (·.value.value)) ∧ framesFit up

def Fits : State → Prop
  | value frames => framesFit frames
  | itemEnd _ items frames => Fit (frames.length + 1) (items.map (·.value)) ∧ framesFit frames
  | memberKey _ members frames | keyEnd _ members _ frames | memberEnd _ members frames =>
      Fit (frames.length + 1) (members.map (·.value.value)) ∧ framesFit frames
  | done document => document.value.value.depth ≤ deepest

theorem Fit.cons {level : Nat} {parts : List Value} {v : Value} (fit : Fit level parts)
    (here : level + v.depth ≤ deepest) : Fit level (v :: parts) :=
  ⟨fit.open_containers, List.forall_mem_cons.mpr ⟨here, fit.each⟩⟩

theorem length_le_deepest {frames : List Frame} (fit : framesFit frames) :
    frames.length ≤ deepest := by
  match frames, fit with
  | [], _ => exact Nat.zero_le _
  | .array _ _ :: _, fit | .object .. :: _, fit => exact fit.1.open_containers

theorem put_fits {frames : List Frame} {v : Placed Outline} (fit : framesFit frames)
    (here : frames.length + v.value.value.depth ≤ deepest) : (put frames v).Fits := by
  match frames, fit with
  | [], _ =>
    rw [List.length_nil, Nat.zero_add] at here
    exact here
  | .array _ _ :: _, fit => exact ⟨fit.1.cons here, fit.2⟩
  | .object .. :: _, fit => exact ⟨fit.1.cons here, fit.2⟩

theorem array_fits {level : Nat} {items : List (Placed Value)}
    (fit : Fit (level + 1) (items.map (·.value))) :
    level + (Outline.array items.reverse).value.depth ≤ deepest := by
  have bound := fit.open_containers
  have each : ∀ v ∈ items.reverse.map (·.value), v.depth ≤ deepest - (level + 1) := by
    intro v member
    have inside := fit.each v (by simpa using member)
    omega
  have nested := Value.depth_array_le each
  rw [Outline.value]
  omega

theorem object_fits {level : Nat} {members : List Member}
    (fit : Fit (level + 1) (members.map (·.value.value))) :
    level + (Outline.object members.reverse).value.depth ≤ deepest := by
  have bound := fit.open_containers
  have each : ∀ m ∈ members.reverse.map (fun m => (m.key, m.value.value)),
      m.2.depth ≤ deepest - (level + 1) := by
    intro m member
    obtain ⟨n, inside, rfl⟩ := List.mem_map.mp member
    have fits := fit.each n.value.value (List.mem_map_of_mem (List.mem_reverse.mp inside))
    exact Nat.le_sub_of_add_le' fits
  have nested := Value.depth_object_le each
  rw [Outline.value]
  omega

/-- No lexeme makes a document too deep. -/
theorem step_fits {s next : State} {l : Lexeme} (fit : s.Fits) (h : s.step l = some next) :
    next.Fits := by
  cases s with
  | value frames =>
    simp only [step] at h
    split at h
    next =>
      cases h
      exact put_fits fit (length_le_deepest fit)
    next =>
      split at h
      next room =>
        cases h
        exact ⟨⟨room, List.forall_mem_nil _⟩, fit⟩
      · cases h
    next =>
      split at h
      next room =>
        cases h
        exact ⟨⟨room, List.forall_mem_nil _⟩, fit⟩
      · cases h
    next =>
      split at h
      next start up =>
        cases h
        exact put_fits fit.2 (array_fits fit.1)
      · cases h
    next => cases h
  | itemEnd start items frames =>
    simp only [step] at h
    split at h
    · cases h
      exact fit
    · cases h
      exact put_fits fit.2 (array_fits fit.1)
    · cases h
  | memberKey start members frames =>
    simp only [step] at h
    split at h
    · cases h
      exact fit
    · split at h
      next empty =>
        cases h
        rw [List.isEmpty_iff.mp empty] at fit
        exact put_fits fit.2 (object_fits fit.1)
      · cases h
    · cases h
  | keyEnd start members key frames =>
    simp only [step] at h
    split at h
    · cases h
      exact fit
    · cases h
  | memberEnd start members frames =>
    simp only [step] at h
    split at h
    · cases h
      exact fit
    · cases h
      exact put_fits fit.2 (object_fits fit.1)
    · cases h
  | done document => cases h

theorem run_fits {s : State} (fit : s.Fits) (ls : List Lexeme) : (s.run ls).1.Fits := by
  induction ls generalizing s with
  | nil => exact fit
  | cons l rest ih =>
    cases stepped : s.step l with
    | none => rw [run_stop stepped]; exact fit
    | some next => rw [run_cons stepped]; exact ih (step_fits fit stepped)

end State

/-- A text holds a document exactly where it is made of its tokens, unless that is too deep. -/
theorem parse_eq_ok_iff_tokens {text : List Char} {v : Value} :
    parse text = .ok v ↔
      (lexemes text).map (·.token) = v.tokens ++ [.finish] ∧ v.depth ≤ State.deepest := by
  constructor
  · intro one
    refine ⟨parse_tokens one, ?_⟩
    have fits := State.run_fits (s := .start) trivial (lexemes text)
    unfold parse at one
    split at one
    next document _ _ reached =>
      cases one
      rw [← progress, reached] at fits
      exact fits
    · cases one
  · rintro ⟨tokens, shallow⟩
    exact parse_of_tokens shallow tokens

end AlertRelay.Json
