import Downlink.Proofs.Tables
import Mathlib.Data.List.Induction

/-! # The last word on a network

The uplinks after a history of reports and removals. A report of a virtual
private network is mute; any other change has the last word on its network until
the next one comes. So the blocks of a network are those of its latest report, if
that came with a transport and no removal has followed, and a network without
blocks is not listed.
-/

namespace Downlink.Uplinks

inductive Change where
  | report (network : String) (addresses : List String) (transport : Option Transport)
  | forget (network : String)
  deriving DecidableEq, Repr

namespace Change

def network : Change → String
  | report network _ _ => network
  | forget network => network

def apply (ch : Change) (u : Uplinks) : Uplinks :=
  match ch with
  | report network addresses transport => (u.report network addresses transport).2
  | forget network => u.forget network

def isMute : Change → Bool
  | report _ _ (some .vpn) => true
  | _ => false

def word? : Change → Option (List Ipv4.Block)
  | report _ addresses transport => reported? addresses transport
  | forget _ => some []

def IsSilentOn (network : String) (ch : Change) : Prop :=
  ch.network = network → ch.isMute = true

end Change

def applyAll (h : List Change) (u : Uplinks) : Uplinks :=
  h.foldl (fun u ch => ch.apply u) u

def after (h : List Change) : Uplinks :=
  applyAll h empty

/-- The network was last reported with these addresses and a transport, other than as a virtual
private network, and nothing has been said about it since. -/
def LastReport (network : String) (addresses : List String) (h : List Change) : Prop :=
  ∃ h₁ transport h₂, h = h₁ ++ [.report network addresses (some transport)] ++ h₂ ∧
    transport ≠ .vpn ∧ ∀ ch ∈ h₂, ch.IsSilentOn network

variable {u : Uplinks} {ch : Change} {h h' : List Change} {n : String} {addresses : List String}

theorem Change.apply_eq (ch : Change) (u : Uplinks) :
    ch.apply u = ch.word?.elim u (u.assign ch.network) := by
  cases ch with
  | report network addresses transport =>
    simp only [apply, Uplinks.report, word?]
    cases reported? addresses transport <;> rfl
  | forget network => rfl

theorem Change.word?_eq_none_iff : ch.word? = none ↔ ch.isMute = true := by
  cases ch with
  | report network addresses transport =>
    cases transport with
    | none => simp [word?, reported?, isMute]
    | some t => cases t <;> simp [word?, reported?, isMute]
  | forget network => simp [word?, isMute]

theorem Change.apply_of_isMute (hm : ch.isMute = true) (u : Uplinks) : ch.apply u = u := by
  rw [apply_eq, word?_eq_none_iff.mpr hm]
  rfl

theorem Change.blocksFor_apply (ch : Change) (u : Uplinks) (n : String) :
    (ch.apply u).blocksFor n =
      if ch.network = n then ch.word?.getD (u.blocksFor n) else u.blocksFor n := by
  rw [apply_eq]
  cases ch.word? with
  | none => simp
  | some blocks =>
    rw [Option.elim_some, blocksFor_assign]
    simp only [eq_comm (a := n), Option.getD_some]

theorem Change.IsSilentOn.blocksFor_apply (hs : ch.IsSilentOn n) (u : Uplinks) :
    (ch.apply u).blocksFor n = u.blocksFor n := by
  rw [Change.blocksFor_apply]
  split
  · next hn =>
    rw [word?_eq_none_iff.mpr (hs hn)]
    rfl
  · rfl

theorem applyAll_concat (h : List Change) (ch : Change) (u : Uplinks) :
    applyAll (h ++ [ch]) u = ch.apply (applyAll h u) := by
  rw [applyAll, List.foldl_append]
  rfl

theorem after_concat (h : List Change) (ch : Change) : after (h ++ [ch]) = ch.apply (after h) :=
  applyAll_concat h ch empty

theorem blocksFor_after_append (hs : ∀ ch ∈ h', ch.IsSilentOn n) :
    (after (h ++ h')).blocksFor n = (after h).blocksFor n := by
  induction h' generalizing h with
  | nil => rw [List.append_nil]
  | cons ch h' ih =>
    obtain ⟨hch, hs⟩ := List.forall_mem_cons.mp hs
    rw [List.append_cons, ih hs, after_concat, hch.blocksFor_apply]

theorem after_filter (h : List Change) : after (h.filter fun ch => !ch.isMute) = after h := by
  induction h using List.reverseRecOn with
  | nil => rfl
  | append_singleton h ch ih =>
    rw [List.filter_append, after_concat]
    cases hm : ch.isMute with
    | true => simp [hm, ih, ch.apply_of_isMute hm]
    | false => simp [hm, after_concat, ih]

theorem LastReport.blocksFor (hl : LastReport n addresses h) :
    (after h).blocksFor n = Ipv4.blocksOf addresses := by
  obtain ⟨h₁, transport, h₂, rfl, hv, hs⟩ := hl
  have hw : (Change.report n addresses (some transport)).word? =
      some (Ipv4.blocksOf addresses) := by
    cases transport with
    | vpn => exact absurd rfl hv
    | _ => rfl
  rw [blocksFor_after_append hs, after_concat, Change.blocksFor_apply, hw]
  exact if_pos rfl

theorem LastReport.concat (hl : LastReport n addresses h) (hs : ch.IsSilentOn n) :
    LastReport n addresses (h ++ [ch]) := by
  obtain ⟨h₁, transport, h₂, rfl, hv, hs₂⟩ := hl
  refine ⟨h₁, transport, h₂ ++ [ch], List.append_assoc .., hv, ?_⟩
  intro d hd
  rcases List.mem_append.mp hd with hd | hd
  · exact hs₂ d hd
  · rwa [List.mem_singleton.mp hd]

/-- A change that is not silent is a report with a transport, or it takes all blocks away. -/
theorem Change.lastReport_or_word? (hs : ¬ ch.IsSilentOn n) (h : List Change) :
    (∃ addresses, LastReport n addresses (h ++ [ch])) ∨ ch.network = n ∧ ch.word? = some [] := by
  obtain ⟨hn, hm⟩ := Classical.not_imp.mp hs
  cases ch with
  | forget network => exact Or.inr ⟨hn, rfl⟩
  | report network addresses transport =>
    cases transport with
    | none => exact Or.inr ⟨hn, rfl⟩
    | some t =>
      have ht : t ≠ .vpn := fun ht => hm (ht ▸ rfl)
      obtain rfl : network = n := hn
      exact Or.inl ⟨addresses, h, t, [], (List.append_nil _).symm, ht, List.forall_mem_nil _⟩

theorem blocksFor_after_of_not_lastReport (hl : ∀ addresses, ¬ LastReport n addresses h) :
    (after h).blocksFor n = [] := by
  induction h using List.reverseRecOn with
  | nil => rfl
  | append_singleton h ch ih =>
    rw [after_concat]
    by_cases hs : ch.IsSilentOn n
    · rw [hs.blocksFor_apply]
      exact ih fun addresses h' => hl addresses (h'.concat hs)
    · rcases Change.lastReport_or_word? hs h with ⟨addresses, h'⟩ | ⟨hn, hw⟩
      · exact absurd h' (hl addresses)
      · rw [Change.blocksFor_apply, if_pos hn, hw]
        rfl

def Tight (u : Uplinks) : Prop :=
  ∀ n, u.entries.get? n ≠ some []

theorem Tight.assign (hu : u.Tight) (network : String) (blocks : List Ipv4.Block) :
    (u.assign network blocks).Tight := by
  intro n
  rw [get?_assign]
  split
  · cases blocks <;> simp
  · exact hu n

theorem tight_after (h : List Change) : (after h).Tight := by
  induction h using List.reverseRecOn with
  | nil =>
    intro n
    simp [after, applyAll, empty]
  | append_singleton h ch ih =>
    rw [after_concat, Change.apply_eq]
    cases ch.word? with
    | none => exact ih
    | some blocks => exact ih.assign _ _

theorem Tight.get?_eq_none_iff (hu : u.Tight) : u.entries.get? n = none ↔ u.blocksFor n = [] := by
  unfold blocksFor
  cases hn : u.entries.get? n with
  | none => simp
  | some blocks =>
    have := hu n
    simp_all

theorem Tight.mem_networks (hu : u.Tight) : n ∈ u.networks ↔ u.blocksFor n ≠ [] := by
  rw [Ne, ← hu.get?_eq_none_iff, networks, Ledger.mem_keys, ← Ne, Option.ne_none_iff_exists']

theorem Tight.knows_iff (hu : u.Tight) : u.knows n = true ↔ u.blocksFor n ≠ [] := by
  rw [knows, Option.isSome_iff_ne_none, Ne, hu.get?_eq_none_iff]

/-- What the uplinks are after a history. -/
structure Remember (h : List Change) (u : Uplinks) : Prop where
  reported : ∀ n addresses, LastReport n addresses h → u.blocksFor n = Ipv4.blocksOf addresses
  unreported : ∀ n, (∀ addresses, ¬ LastReport n addresses h) → u.blocksFor n = []
  nodup_networks : u.networks.Nodup
  mem_networks : ∀ n, n ∈ u.networks ↔ u.blocksFor n ≠ []
  mem_allBlocks : ∀ b, b ∈ u.allBlocks ↔ ∃ n, b ∈ u.blocksFor n
  knows_iff : ∀ n, u.knows n = true ↔ u.blocksFor n ≠ []
  /-- Histories that differ in mute changes alone lead to the same uplinks. -/
  mute : ∀ h', (h'.filter fun ch => !ch.isMute) = (h.filter fun ch => !ch.isMute) → after h' = u
  others : ∀ (ch : Change) (n : String), ch.network ≠ n → (ch.apply u).blocksFor n = u.blocksFor n

end Uplinks

open Uplinks

/-- The uplinks after a history are the last words of it. -/
theorem last_words_remembered (h : List Change) : Remember h (after h) where
  reported _ _ hl := hl.blocksFor
  unreported _ hl := blocksFor_after_of_not_lastReport hl
  nodup_networks := (after h).entries.nodup
  mem_networks _ := (tight_after h).mem_networks
  mem_allBlocks _ := Uplinks.mem_allBlocks
  knows_iff _ := (tight_after h).knows_iff
  mute h' he := by rw [← after_filter h', he, after_filter]
  others ch n hn := by rw [Change.blocksFor_apply, if_neg hn]

/-- Two networks hold one block; one of them goes, and the other says nothing new. -/
example :
    (after [.report "office" ["10.0.0.8/24", "fe80::1/64"] (some .wifi),
      .report "mobile" ["10.0.0.9/24"] (some .cellular),
      .report "office" [] (some .vpn), .forget "mobile"]).allBlocks =
        Ipv4.blocksOf ["10.0.0.0/24"] := by
  decide +kernel

end Downlink
