import Downlink.Http.Url
import Mathlib.Data.List.Basic

/-! # Addresses below a server

A text may name a server and nothing on it. A path that is appended to such a
text is what is asked for there, and the server stays the same.
-/

namespace Downlink.Http

open Text

/-- The text names the server of this authority and nothing on it. -/
def NamesServer (base : String) (secure : Bool) (authority : Authority) : Prop :=
  ∃ front, afterScheme? (base.toList.dropWhile isBlank) = some (secure, front) ∧
    front.any endsAuthority = false ∧ Authority.ofText? front = some authority

variable {cs front : List Char} {secure : Bool} {authority : Authority} {base : String}

theorem afterScheme?_append (h : afterScheme? cs = some (secure, front)) (rest : List Char) :
    afterScheme? (cs ++ rest) = some (secure, front ++ rest) := by
  have hprefix {scheme : List Char} (hs : scheme.isPrefixOf (cs.map Char.toLower) = true) :
      scheme.isPrefixOf ((cs ++ rest).map Char.toLower) = true ∧ scheme.length ≤ cs.length := by
    rw [List.isPrefixOf_iff_prefix] at hs ⊢
    rw [List.map_append]
    exact ⟨hs.trans (List.prefix_append ..), by simpa using hs.length_le⟩
  simp only [afterScheme?] at h ⊢
  split at h
  · next hs =>
    obtain ⟨hs, hlen⟩ := hprefix hs
    have hlen : 7 ≤ cs.length := hlen
    cases h
    rw [if_pos hs, List.drop_append_of_le_length hlen]
  · next hn =>
    split at h
    · next hs =>
      obtain ⟨hs, hlen⟩ := hprefix hs
      have hlen : 8 ≤ cs.length := hlen
      cases h
      have hn : ¬ "http://".toList.isPrefixOf ((cs ++ rest).map Char.toLower) = true := by
        obtain ⟨t, ht⟩ := List.isPrefixOf_iff_prefix.mp hs
        rw [← ht]
        simp
      rw [if_neg hn, if_pos hs, List.drop_append_of_le_length hlen]
    · cases h

theorem Url.ofText?_append (h : NamesServer base secure authority) {path : String}
    (hp : path.toList.head? = some '/') :
    ofText? (base ++ path) =
      some ⟨secure, authority, targetOf authority (pathOf path.toList)⟩ := by
  obtain ⟨front, hs, hf, ha⟩ := h
  have hne : base.toList.dropWhile isBlank ≠ [] := by
    intro he
    rw [he] at hs
    cases hs
  have hdrop : (base ++ path).toList.dropWhile isBlank =
      base.toList.dropWhile isBlank ++ path.toList := by
    rw [String.toList_append, List.dropWhile_append, if_neg (by simpa using hne)]
  have htake : (front ++ path.toList).takeWhile (fun c => !endsAuthority c) = front := by
    obtain ⟨rest, hr⟩ : ∃ rest, path.toList = '/' :: rest := by
      cases hl : path.toList with
      | nil => simp [hl] at hp
      | cons c rest =>
        rw [hl] at hp
        exact ⟨rest, by simpa using hp⟩
    rw [List.takeWhile_append_of_pos (by simpa [List.any_eq_false] using hf), hr]
    simp [endsAuthority]
  rw [ofText?, hdrop, afterScheme?_append hs]
  simp [htake, ha]

end Downlink.Http
