import Downlink.Http.Url
import Downlink.Proofs.Http.Escape
import Mathlib.Data.List.TakeWhile

/-! # Paths of two segments

A path with a name and an item below it. If neither is a dot segment, nothing is
resolved, and the server sees the name and what arrives of the item.
-/

namespace Downlink.Http

open Text

theorem pathOf_isPrefix (cs : List Char) : pathOf cs <+: cs :=
  List.takeWhile_prefix _

theorem pathOf_eq_self_iff {cs : List Char} : pathOf cs = cs ↔ '?' ∉ cs ∧ '#' ∉ cs := by
  rw [pathOf, List.takeWhile_eq_self_iff]
  simp only [Bool.and_eq_true, bne_iff_ne]
  constructor
  · exact fun h => ⟨fun hq => (h _ hq).1 rfl, fun hf => (h _ hf).2 rfl⟩
  · exact fun h c hc => ⟨fun hq => h.1 (hq ▸ hc), fun hf => h.2 (hf ▸ hc)⟩

def dotSegments : List (List Char) :=
  [['.'], ['.', '.']]

variable {name item : List Char}

theorem splitList_two (hn : '/' ∉ name) (hi : '/' ∉ item) :
    splitList '/' ('/' :: (name ++ '/' :: item)) = [[], name, item] := by
  have hroot := splitList_append (name ++ '/' :: item) (List.not_mem_nil (a := '/'))
  rw [List.nil_append] at hroot
  rw [hroot, splitList_append item hn, splitList_eq_singleton hi]

theorem resolveDots_two (hn : '/' ∉ name) (hi : '/' ∉ item) (hnd : name ∉ dotSegments)
    (hid : item ∉ dotSegments) :
    resolveDots ('/' :: (name ++ '/' :: item)) = '/' :: (name ++ '/' :: item) := by
  simp only [dotSegments, List.mem_cons, List.not_mem_nil, or_false, not_or] at hnd hid
  have hkept : resolveSegments [] [[], name, item] = [[], name, item] := by
    simp [resolveSegments, hnd, hid]
  simp [resolveDots, splitList_two hn hi, hkept, hid, List.intercalate]

theorem ne_of_mem_completeEscapes {c d : Char} {cs : List Char} (hd : standsEscaped d = false)
    (hc : c ∈ completeEscapes isPathChar cs) : c ≠ d := by
  rintro rfl
  rw [standsEscaped_of_mem hc] at hd
  cases hd

/-- What the server sees of a path is what arrives of it, if it is not taken for an authority. -/
theorem decodedPath_completeEscapes {cs : List Char}
    (h : ∀ rest, completeEscapes isPathChar cs ≠ '/' :: '/' :: rest) :
    decodedPath (String.ofList (completeEscapes isPathChar cs)) = arrival cs := by
  have hfilter : (completeEscapes isPathChar cs).filter
      (fun c => c != '\t' && c != '\r' && c != '\n') = completeEscapes isPathChar cs := by
    refine List.filter_eq_self.mpr fun c hc => ?_
    simp [ne_of_mem_completeEscapes (by decide : standsEscaped '\t' = false) hc,
      ne_of_mem_completeEscapes (by decide : standsEscaped '\r' = false) hc,
      ne_of_mem_completeEscapes (by decide : standsEscaped '\n' = false) hc]
  have hpath : pathOf (completeEscapes isPathChar cs) = completeEscapes isPathChar cs :=
    pathOf_eq_self_iff.mpr ⟨fun hq => ne_of_mem_completeEscapes (by decide) hq rfl,
      fun hf => ne_of_mem_completeEscapes (by decide) hf rfl⟩
  have hown : withoutAuthority (completeEscapes isPathChar cs) = completeEscapes isPathChar cs := by
    rw [withoutAuthority, hfilter]
    split
    · next rest heq => exact absurd heq (h rest)
    · rfl
  rw [decodedPath, String.toList_ofList, hown, hpath, decodeLossy, String.toList_ofList, arrival]

theorem decodedPath_two {authority : Authority} (ha : authority.looksBroken = false)
    (hp : ∀ c ∈ name, isPathChar c = true) (hne : name ≠ []) (hn : '/' ∉ name)
    (hnd : name ∉ dotSegments) (hi : '/' ∉ item) (hid : item ∉ dotSegments) :
    decodedPath (Url.targetOf authority ('/' :: (name ++ '/' :: item))) =
      '/' :: (name ++ '/' :: arrival item) := by
  have hfront : ∀ c ∈ '/' :: (name ++ ['/']), isPathChar c = true := by
    have hslash : isPathChar '/' = true := by decide
    simpa [or_imp, forall_and, hslash] using hp
  have hsplit (cs : List Char) : '/' :: (name ++ '/' :: cs) = '/' :: (name ++ ['/']) ++ cs := by
    simp
  have hdone := completeEscapes_append hfront item
  have htarget : Url.targetOf authority ('/' :: (name ++ '/' :: item)) =
      String.ofList (completeEscapes isPathChar ('/' :: (name ++ ['/']) ++ item)) := by
    simp only [Url.targetOf, resolveDots_two hn hi hnd hid, ha]
    rw [hsplit, hdone]
    simp
  rw [htarget, decodedPath_completeEscapes, hsplit (arrival item), arrival_append hfront]
  rintro rest heq
  rw [hdone] at heq
  cases name with
  | nil => exact hne rfl
  | cons c name =>
    simp only [List.cons_append, List.cons.injEq, true_and] at heq
    exact hn (heq.1 ▸ List.mem_cons_self)

end Downlink.Http
