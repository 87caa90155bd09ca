import Downlink.Proofs.Ipv4.Collect
import Downlink.Proofs.Uplinks.LastWord
import Mathlib.Data.List.Forall2

/-! # Interleaved changes

Two sequences of changes that agree network by network, where the addresses of a
report may stand in another order, more than once and among texts that cannot be
read. Each network has the same blocks after both, and what depends on the single
changes alone is the same up to the order.
-/

namespace Downlink

namespace Uplinks

variable {ch d : Change} {cs ds : List Change} {u v : Uplinks} {n : String}

/-- The same change, but for the order, the repetition and the unreadable ones of its addresses. -/
inductive Change.Restates : Change → Change → Prop where
  | report {network : String} {addresses addresses' : List String}
      {transport : Option Transport} : Ipv4.ReadAlike addresses addresses' →
      Restates (.report network addresses transport) (.report network addresses' transport)
  | forget {network : String} : Restates (.forget network) (.forget network)

/-- The changes of each network are the same, in the same order. -/
def Interleaved (cs ds : List Change) : Prop :=
  ∀ n, List.Forall₂ Change.Restates (cs.filter fun ch => ch.network = n)
    (ds.filter fun ch => ch.network = n)

theorem Change.Restates.network_eq (h : ch.Restates d) : ch.network = d.network := by
  cases h <;> rfl

theorem Change.Restates.blocksFor_perm (h : ch.Restates d)
    (hu : (u.blocksFor n).Perm (v.blocksFor n)) :
    ((ch.apply u).blocksFor n).Perm ((d.apply v).blocksFor n) := by
  rw [Change.blocksFor_apply, Change.blocksFor_apply, h.network_eq]
  split
  · cases h with
    | forget => exact .refl _
    | @report _ _ _ transport ha =>
      cases transport with
      | none => exact .refl _
      | some t =>
        cases t with
        | vpn => exact hu
        | _ => exact ha.blocksOf_perm
  · exact hu

theorem blocksFor_applyAll_filter (cs : List Change) (u : Uplinks) (n : String) :
    (applyAll (cs.filter fun ch => ch.network = n) u).blocksFor n =
      (applyAll cs u).blocksFor n := by
  induction cs using List.reverseRecOn with
  | nil => rfl
  | append_singleton cs ch ih =>
    rw [List.filter_append, applyAll_concat, Change.blocksFor_apply, ← ih]
    by_cases hn : ch.network = n
    · simp [hn, applyAll_concat, Change.blocksFor_apply]
    · simp [hn]

theorem blocksFor_perm_of_forall₂ (h : List.Forall₂ Change.Restates cs ds)
    (hu : (u.blocksFor n).Perm (v.blocksFor n)) :
    ((applyAll cs u).blocksFor n).Perm ((applyAll ds v).blocksFor n) := by
  induction h generalizing u v with
  | nil => exact hu
  | cons hd _ ih => exact ih (hd.blocksFor_perm hu)

theorem Interleaved.blocksFor_perm (h : Interleaved cs ds) (u : Uplinks) (n : String) :
    ((applyAll cs u).blocksFor n).Perm ((applyAll ds u).blocksFor n) := by
  rw [← blocksFor_applyAll_filter cs, ← blocksFor_applyAll_filter ds]
  exact blocksFor_perm_of_forall₂ (h n) (.refl _)

theorem Interleaved.mem_allBlocks (h : Interleaved cs ds) (u : Uplinks) (b : Ipv4.Block) :
    b ∈ (applyAll ds u).allBlocks ↔ b ∈ (applyAll cs u).allBlocks := by
  rw [Uplinks.mem_allBlocks, Uplinks.mem_allBlocks]
  exact exists_congr fun n => (h.blocksFor_perm u n).mem_iff.symm

/-- The first change of one sequence stands somewhere in the other, behind changes of other
networks only. -/
theorem Interleaved.exists_of_cons (h : Interleaved (ch :: cs) ds) :
    ∃ front d back, ds = front ++ d :: back ∧ ch.Restates d ∧ Interleaved cs (front ++ back) := by
  have hch := h ch.network
  rw [List.filter_cons, if_pos (by simp)] at hch
  obtain ⟨d, rest, hd, hrest, heq⟩ := List.forall₂_cons_left_iff.mp hch
  obtain ⟨front, back, rfl, hfront, hnet, rfl⟩ := List.filter_eq_cons_iff.mp heq
  refine ⟨front, d, back, rfl, hd, fun n => ?_⟩
  by_cases hn : ch.network = n
  · subst hn
    rwa [List.filter_append, List.filter_eq_nil_iff.mpr hfront, List.nil_append]
  · have hd' : ¬ d.network = n := by rwa [← hd.network_eq]
    have := h n
    rw [List.filter_cons, if_neg (by simpa using hn)] at this
    rw [List.filter_append] at this ⊢
    rwa [List.filter_cons, if_neg (by simpa using hd')] at this

theorem Interleaved.flatMap_perm {α : Type} {f : Change → List α}
    (hf : ∀ ch d : Change, ch.Restates d → f ch = f d) (h : Interleaved cs ds) :
    (cs.flatMap f).Perm (ds.flatMap f) := by
  induction cs generalizing ds with
  | nil =>
    cases ds with
    | nil => exact .refl _
    | cons d ds =>
      have hd := h d.network
      rw [List.filter_cons, if_pos (by simp)] at hd
      cases hd
  | cons ch cs ih =>
    obtain ⟨front, d, back, rfl, hd, hrest⟩ := h.exists_of_cons
    have hp := ih hrest
    simp only [List.flatMap_cons, List.flatMap_append, hf ch d hd] at hp ⊢
    exact (hp.append_left _).trans (List.perm_append_comm_assoc ..)

end Uplinks

end Downlink
