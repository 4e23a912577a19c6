/-!
# Cutting text at a separator

The pieces between separators, so there is one more piece than there are separators and none
holds a separator itself.
-/
namespace AlertRelay.Text

def split (sep : Char) : List Char → List (List Char)
  | [] => [[]]
  | c :: rest =>
      if c = sep then [] :: split sep rest
      else (split sep rest).modifyHead (c :: ·)

theorem length_split (sep : Char) (cs : List Char) :
    (split sep cs).length = cs.count sep + 1 := by
  induction cs with
  | nil => rfl
  | cons c rest ih => by_cases h : c = sep <;> simp [split, h, ih]

theorem split_ne_nil (sep : Char) (cs : List Char) : split sep cs ≠ [] := by
  intro h
  have hlen := length_split sep cs
  rw [h] at hlen
  simp at hlen

theorem not_mem_of_mem_split {sep : Char} {cs piece : List Char} (h : piece ∈ split sep cs) :
    sep ∉ piece := by
  induction cs generalizing piece with
  | nil =>
      rw [split, List.mem_singleton] at h
      simp [h]
  | cons c rest ih =>
      rw [split] at h
      by_cases hc : c = sep
      · rw [if_pos hc, List.mem_cons] at h
        rcases h with rfl | h
        · simp
        · exact ih h
      · rw [if_neg hc] at h
        obtain ⟨w, ws, hw⟩ := List.exists_cons_of_ne_nil (split_ne_nil sep rest)
        rw [hw, List.modifyHead_cons, List.mem_cons] at h
        rcases h with rfl | h
        · intro hm
          rcases List.mem_cons.1 hm with rfl | hm
          · exact hc rfl
          · exact ih (hw ▸ List.mem_cons_self) hm
        · exact ih (hw ▸ List.mem_cons_of_mem w h)

end AlertRelay.Text
