/-! # Splitting at a character

A text is cut at every occurrence of a separator. Joining the parts with the
separator gives the text back.
-/

namespace Downlink.Text

def splitList (sep : Char) : List Char → List (List Char)
  | [] => [[]]
  | c :: cs =>
    match splitList sep cs with
    | [] => [[c]]
    | part :: parts => if c = sep then [] :: part :: parts else (c :: part) :: parts

theorem splitList_ne_nil (sep : Char) (cs : List Char) : splitList sep cs ≠ [] := by
  cases cs with
  | nil => simp [splitList]
  | cons c cs => simp only [splitList]; split <;> (try split) <;> simp

theorem splitList_cons (sep c : Char) (cs : List Char) :
    ∃ part parts, splitList sep cs = part :: parts ∧
      splitList sep (c :: cs) =
        if c = sep then [] :: part :: parts else (c :: part) :: parts := by
  match h : splitList sep cs with
  | [] => exact absurd h (splitList_ne_nil sep cs)
  | part :: parts => exact ⟨part, parts, rfl, by simp [splitList, h]⟩

theorem intercalate_splitList (sep : Char) (cs : List Char) :
    [sep].intercalate (splitList sep cs) = cs := by
  induction cs with
  | nil => rfl
  | cons c cs ih =>
    obtain ⟨part, parts, hs, hc⟩ := splitList_cons sep c cs
    rw [hc]
    rw [hs] at ih
    by_cases h : c = sep
    · subst h
      simpa [List.intercalate] using ih
    · cases parts <;> simp_all [List.intercalate]

theorem notMem_of_mem_splitList {sep : Char} {part : List Char} {cs : List Char}
    (h : part ∈ splitList sep cs) : sep ∉ part := by
  induction cs generalizing part with
  | nil =>
    rw [splitList, List.mem_singleton] at h
    simp [h]
  | cons c cs ih =>
    obtain ⟨first, parts, hs, hc⟩ := splitList_cons sep c cs
    rw [hs] at ih
    rw [hc] at h
    by_cases hsep : c = sep
    · rw [if_pos hsep, List.mem_cons] at h
      rcases h with rfl | h
      · exact List.not_mem_nil
      · exact ih h
    · rw [if_neg hsep, List.mem_cons] at h
      rcases h with rfl | h
      · rw [List.mem_cons, not_or]
        exact ⟨Ne.symm hsep, ih List.mem_cons_self⟩
      · exact ih (List.mem_cons_of_mem _ h)

theorem splitList_eq_singleton {sep : Char} {cs : List Char} (h : sep ∉ cs) :
    splitList sep cs = [cs] := by
  induction cs with
  | nil => rfl
  | cons c cs ih =>
    simp only [List.mem_cons, not_or] at h
    simp [splitList, ih h.2, Ne.symm h.1]

theorem splitList_append {sep : Char} {front : List Char} (rest : List Char) (h : sep ∉ front) :
    splitList sep (front ++ sep :: rest) = front :: splitList sep rest := by
  induction front with
  | nil =>
    obtain ⟨part, parts, hs, hc⟩ := splitList_cons sep sep rest
    simp [hc, hs]
  | cons c front ih =>
    simp only [List.mem_cons, not_or] at h
    simp [splitList, ih h.2, Ne.symm h.1]

end Downlink.Text
