import Downlink.Json.Writer
import Downlink.Ledger
import Downlink.Proofs.Json.Nesting

/-! # Values with sorted keys

Sorting moves the fields of an object and keeps what is found under each key. Of
a key that is there twice the first field stays the first. Nothing gets deeper.
-/

namespace Downlink.Json

theorem insertSorted_perm (key : String) (value : Json) (fields : List (String × Json)) :
    (insertSorted key value fields).Perm ((key, value) :: fields) := by
  induction fields with
  | nil => exact .refl _
  | cons f fields ih =>
    rw [insertSorted]
    split
    · exact .refl _
    · exact (ih.cons f).trans (.swap ..)

theorem sortedFields_perm (fields : List (String × Json)) :
    (sortedFields fields).Perm (fields.map fun f => (f.1, f.2.sorted)) := by
  induction fields with
  | nil => exact .refl _
  | cons f fields ih =>
    rw [sortedFields]
    exact (insertSorted_perm ..).trans (ih.cons _)

theorem valueAt?_insertSorted (key l : String) (value : Json) (fields : List (String × Json)) :
    valueAt? l (insertSorted key value fields) =
      if l = key then some value else valueAt? l fields := by
  induction fields with
  | nil => simp [insertSorted, valueAt?, eq_comm]
  | cons f fields ih =>
    rw [insertSorted]
    split
    · simp [valueAt?, eq_comm]
    · next h =>
      have hne : f.1 ≠ key := fun he => h (he ▸ String.le_refl _)
      by_cases hl : f.1 = l
      · simp [valueAt?, hl, hl ▸ hne]
      · simp [valueAt?, hl, ih]

theorem valueAt?_sortedFields (key : String) (fields : List (String × Json)) :
    valueAt? key (sortedFields fields) = (valueAt? key fields).map sorted := by
  induction fields with
  | nil => rfl
  | cons f fields ih =>
    rw [sortedFields, valueAt?_insertSorted, ih, valueAt?]
    simp only [eq_comm (a := key)]
    split <;> rfl

theorem sortedItems_eq_map (items : List Json) : sortedItems items = items.map sorted := by
  induction items with
  | nil => rfl
  | cons v items ih => rw [sortedItems, ih, List.map_cons]

theorem sorted_ofStrings (texts : List String) : (ofStrings texts).sorted = ofStrings texts := by
  rw [ofStrings, sorted, sortedItems_eq_map, List.map_map]
  rfl

theorem overflow?_sorted {room : Nat} {v : Json} (h : v.overflow? room = none) :
    v.sorted.overflow? room = none := by
  induction room generalizing v with
  | zero => cases v <;> simp_all [overflow?, sorted]
  | succ room ih =>
    cases v with
    | arr items =>
      rw [sorted, sortedItems_eq_map, overflow?_arr_iff, List.forall_mem_map]
      exact fun v hv => ih (overflow?_arr_iff.1 h v hv)
    | obj fields =>
      rw [sorted, overflow?_obj_iff]
      intro f hf
      obtain ⟨g, hg, rfl⟩ := List.mem_map.1 ((sortedFields_perm fields).mem_iff.1 hf)
      exact ih (overflow?_obj_iff.1 h g hg)
    | _ => rfl

theorem Room.overflow?_sorted (room : Room) {v : Json} (h : v.overflow? 3 = none) :
    v.sorted.overflow? room.levels = none :=
  Json.overflow?_sorted (overflow?_mono room.three_le h)

end Downlink.Json
