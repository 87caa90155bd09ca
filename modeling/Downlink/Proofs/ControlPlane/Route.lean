import Downlink.Proofs.ControlPlane.Command

/-! # What a path names

A request is for the resource that its path names below any slashes, if the
resource admits the method. An uplink is named by one segment, so no path names
one whose name is empty or holds a slash.
-/

namespace Downlink.ControlPlane

open Http Text

variable {method network : String} {path : List Char} {resource : Resource} {r : Request}

theorem route_eq_found_iff : route method path = .found resource ↔
    Resource.ofPath? (path.dropWhile (· == '/')) = some resource ∧ method ∈ resource.methods := by
  simp only [route]
  constructor
  · intro h
    split at h
    · next hp =>
      split at h
      · next hm =>
        cases h
        exact ⟨hp, hm⟩
      · cases h
    · split at h
      · split at h <;> cases h
      · cases h
  · rintro ⟨hp, hm⟩
    simp [hp, hm]

theorem resource?_eq_some_iff : resource? r = some resource ↔
    Resource.ofPath? ((decodedPath r.target).dropWhile (· == '/')) = some resource ∧
      verb r ∈ resource.methods := by
  rw [← route_eq_found_iff]
  exact ⟨route_of_resource, fun h => by simp [resource?, h]⟩

theorem file?_ne_uplink (folder file : List Char) :
    Resource.file? folder file ≠ some (.uplink network) := by
  unfold Resource.file?
  split <;> simp

theorem ofPath?_uplink {item : List Char} (hne : item ≠ []) (hs : '/' ∉ item) :
    Resource.ofPath? ("upstreams".toList ++ '/' :: item) = some (.uplink (String.ofList item)) := by
  have hsplit : splitList '/' ("upstreams".toList ++ '/' :: item) = ["upstreams".toList, item] := by
    rw [splitList_append item (by decide), splitList_eq_singleton hs]
  simp only [Resource.ofPath?, hsplit]
  rw [if_neg (by simpa using hne), if_neg (by decide), if_pos trivial]

theorem ofPath?_eq_uplink_iff : Resource.ofPath? path = some (.uplink network) ↔
    path = "upstreams".toList ++ '/' :: network.toList ∧ network ≠ "" ∧ '/' ∉ network.toList := by
  constructor
  · intro h
    unfold Resource.ofPath? at h
    split at h
    · cases h
    · repeat' split at h
      all_goals cases h
    · next collection item hs =>
      repeat' split at h
      · cases h
      · cases h
      · next hi _ hc =>
        cases h
        have hpath := intercalate_splitList '/' path
        have hitem : item ∈ splitList '/' path := by simp [hs]
        rw [hs, hc] at hpath
        refine ⟨?_, ?_, ?_⟩
        · rw [← hpath, String.toList_ofList]
          simp [List.intercalate]
        · simpa [← String.toList_inj] using hi
        · rw [String.toList_ofList]
          exact notMem_of_mem_splitList hitem
      · exact absurd h (file?_ne_uplink _ _)
    · exact absurd h (file?_ne_uplink _ _)
  · rintro ⟨rfl, hne, hs⟩
    rw [ofPath?_uplink (by simpa using hne) hs, String.ofList_toList]

end Downlink.ControlPlane
