import Downlink.Ipv4.Collect
import Downlink.Proofs.Ipv4.Text
import Mathlib.Data.List.Nodup

/-! # The blocks of some texts

The texts that read as addresses settle the blocks. Their order, repetitions and
texts of any other kind among them do not count. The texts of some blocks give
these blocks back.
-/

namespace Downlink.Ipv4

variable {b : Block} {text : String} {texts texts' : List String}

/-- The same texts among them read as addresses. -/
def ReadAlike (texts texts' : List String) : Prop :=
  ∀ text, blockOf? text ≠ none → (text ∈ texts ↔ text ∈ texts')

theorem nodup_eraseDups {α : Type} [DecidableEq α] (as : List α) : as.eraseDups.Nodup := by
  cases as with
  | nil => exact List.nodup_nil
  | cons a as =>
    rw [List.eraseDups_cons, List.nodup_cons]
    exact ⟨by simp, nodup_eraseDups _⟩
termination_by as.length
decreasing_by exact Nat.lt_succ_of_le (List.length_filter_le ..)

theorem mem_blocksOf : b ∈ blocksOf texts ↔ ∃ text ∈ texts, blockOf? text = some b := by
  rw [blocksOf, List.mem_eraseDups, List.mem_filterMap]

theorem nodup_blocksOf (texts : List String) : (blocksOf texts).Nodup :=
  nodup_eraseDups _

theorem ReadAlike.blocksOf_perm (h : ReadAlike texts texts') :
    (blocksOf texts).Perm (blocksOf texts') := by
  rw [List.perm_ext_iff_of_nodup (nodup_blocksOf _) (nodup_blocksOf _)]
  intro b
  rw [mem_blocksOf, mem_blocksOf]
  refine exists_congr fun text => and_congr_left fun hb => h text ?_
  simp [hb]

theorem mem_blocksOf_append {xs ys : List String} :
    b ∈ blocksOf (xs ++ ys) ↔ b ∈ blocksOf xs ∨ b ∈ blocksOf ys := by
  simp only [mem_blocksOf, List.mem_append, or_and_right, exists_or]

section Printed

variable {bs bs' : List Block}

theorem blockOf?_text (b : Block) : blockOf? b.text = some b := by
  have hstrip : Text.strip b.text = b.text := by
    rw [Text.strip, Block.text, Interface.text, String.toList_ofList,
      Text.trimList_eq_self fun c hc => Interface.isBlank_of_mem_chars hc]
  rw [blockOf?, hstrip, Block.text, Interface.ofText?_text]
  exact congrArg some b.block_interface

theorem mem_blocksOf_map_text : b ∈ blocksOf (bs.map Block.text) ↔ b ∈ bs := by
  simp [mem_blocksOf, blockOf?_text]

theorem sortedTexts_perm (bs : List Block) : (sortedTexts bs).Perm (bs.map Block.text) :=
  List.mergeSort_perm ..

theorem pairwise_sortedTexts (bs : List Block) : (sortedTexts bs).Pairwise (· ≤ ·) := by
  have h : (sortedTexts bs).Pairwise fun s t => decide (s ≤ t) = true := by
    refine List.pairwise_mergeSort (fun s t u hst htu => ?_) (fun s t => ?_) _
    · simpa using String.le_trans (by simpa using hst) (by simpa using htu)
    · simpa using String.le_total s t
  simpa using h

theorem sortedTexts_congr (h : bs.Perm bs') : sortedTexts bs = sortedTexts bs' := by
  refine List.Perm.eq_of_pairwise (fun _ _ _ _ => String.le_antisymm) (pairwise_sortedTexts bs)
    (pairwise_sortedTexts bs') ?_
  exact (sortedTexts_perm bs).trans ((h.map _).trans (sortedTexts_perm bs').symm)

theorem blocksOf_sortedTexts_perm (h : bs.Nodup) : (blocksOf (sortedTexts bs)).Perm bs := by
  rw [List.perm_ext_iff_of_nodup (nodup_blocksOf _) h]
  intro b
  have hm : b ∈ blocksOf (bs.map Block.text) ↔ b ∈ bs := mem_blocksOf_map_text
  rw [← hm, mem_blocksOf, mem_blocksOf]
  exact exists_congr fun text => and_congr_left fun _ => (sortedTexts_perm bs).mem_iff

end Printed

end Downlink.Ipv4
