import AlertRelay.Text.Split

/-!
# Pieces between separators

The pieces with the separator between them are the text again. So the last piece is what stands behind
the last separator, or all of a text without one.
-/
namespace AlertRelay.Text
variable {sep : Char}

theorem split_eq_splitOn (cs : List Char) : split sep cs = cs.splitOn sep := by
  induction cs with
  | nil => rfl
  | cons c cs ih =>
    rw [List.splitOn, List.splitOnP_cons_eq_if_modifyHead] at *
    simp only [split, ih, beq_iff_eq]

theorem split_of_not_mem {cs : List Char} (absent : sep ∉ cs) : split sep cs = [cs] := by
  rw [split_eq_splitOn, List.splitOn_eq_singleton absent]

theorem split_append_sep (front back : List Char) :
    split sep (front ++ sep :: back) = split sep front ++ split sep back := by
  simp only [split_eq_splitOn, List.splitOn]
  exact List.splitOnP_append_cons front back (by simp)

theorem intercalate_split (sep : Char) (cs : List Char) : [sep].intercalate (split sep cs) = cs := by
  rw [split_eq_splitOn, List.intercalate_splitOn]

theorem intercalate_concat {pieces : List (List Char)} (filled : pieces ≠ []) (last : List Char) :
    [sep].intercalate (pieces ++ [last]) = [sep].intercalate pieces ++ sep :: last := by
  induction pieces with
  | nil => exact absurd rfl filled
  | cons p pieces ih =>
    cases pieces with
    | nil => simp
    | cons q pieces =>
      have rest := ih (List.cons_ne_nil q pieces)
      rw [List.cons_append, List.intercalate_cons_of_ne_nil (by simp), rest, List.intercalate_cons_cons,
        List.append_assoc (p ++ [sep])]

theorem mem_of_mem_split {cs piece : List Char} (h : piece ∈ split sep cs) {c : Char} (among : c ∈ piece) :
    c ∈ cs := by
  induction cs generalizing piece with
  | nil =>
    rw [split, List.mem_singleton] at h
    rwa [h] at among
  | cons d cs ih =>
    obtain ⟨first, others, pieces⟩ := List.exists_cons_of_ne_nil (split_ne_nil sep cs)
    rw [split, pieces] at h
    rw [pieces] at ih
    split at h
    · rcases List.mem_cons.mp h with rfl | h
      · cases among
      · exact List.mem_cons_of_mem d (ih h among)
    · rw [List.modifyHead_cons] at h
      rcases List.mem_cons.mp h with rfl | h
      · rw [List.mem_cons] at among ⊢
        exact among.imp_right (ih List.mem_cons_self)
      · exact List.mem_cons_of_mem d (ih (List.mem_cons_of_mem first h) among)

theorem getLast?_split {cs last : List Char} :
    (split sep cs).getLast? = some last ↔ sep ∉ last ∧ (cs = last ∨ sep :: last <:+ cs) := by
  constructor
  · intro ends
    refine ⟨not_mem_of_mem_split (List.mem_of_getLast? ends), ?_⟩
    obtain ⟨front, pieces⟩ := List.getLast?_eq_some_iff.mp ends
    have whole := intercalate_split sep cs
    rw [pieces] at whole
    by_cases filled : front = []
    · left
      rw [← whole, filled, List.nil_append, List.intercalate_singleton]
    · right
      rw [← whole, intercalate_concat filled]
      exact List.suffix_append _ _
  · rintro ⟨absent, rfl | ⟨front, rfl⟩⟩
    · rw [split_of_not_mem absent]
      rfl
    · rw [split_append_sep, split_of_not_mem absent]
      exact List.getLast?_concat

end AlertRelay.Text
