import Downlink.Proofs.Routine.Effect

/-! # Separate reservations

No address is reserved twice, and the reserved ranges stay out of use but for the
dedicated address. The invariant that carries this speaks of the last addresses
as well: a live address is the last one of its role, and a last address stays
clear of the reserved ranges or is the dedicated one. Without this a reused
address could not be told to be clear of a dedicated one.
-/

namespace Downlink

variable {ι : Type}

namespace Reservations

/-- The role holds the address or held it last. -/
def Held (t : Reservations) (r : Role) (a : Ipv4.Interface) : Prop :=
  t.live.get? r = some a ∨ t.last.get? r = some a

structure Sound (t : Reservations) : Prop where
  live_last : ∀ {r a}, t.live.get? r = some a → t.last.get? r = some a
  length : ∀ {r a}, t.last.get? r = some a → a.length = Ipv4.Interface.subnetLength
  clear : ∀ {r a}, t.last.get? r = some a → a ≠ ReservedRanges.wifiP2pAddress →
    ∀ b ∈ ReservedRanges.standard.blocks, ¬ a.block.Meets b
  dedicated : ∀ {r}, t.last.get? r = some ReservedRanges.wifiP2pAddress → r = .wifiP2p
  apart : ∀ {r s a b}, r ≠ s → t.live.get? r = some a → t.live.get? s = some b →
    ¬ a.block.Meets b.block

theorem Sound.empty : Sound .empty where
  live_last := by simp [Reservations.empty]
  length := by simp [Reservations.empty]
  clear := by simp [Reservations.empty]
  dedicated := by simp [Reservations.empty]
  apart := by simp [Reservations.empty]

variable {t : Reservations} {r : Role} {a : Ipv4.Interface}

theorem Sound.last_of_held (ht : Sound t) (h : t.Held r a) : t.last.get? r = some a := by
  rcases h with h | h
  · exact ht.live_last h
  · exact h

theorem Sound.clear_of_ne (ht : Sound t) (hr : r ≠ .wifiP2p) (ha : t.last.get? r = some a) :
    ∀ b ∈ ReservedRanges.standard.blocks, ¬ a.block.Meets b := by
  refine ht.clear ha ?_
  rintro rfl
  exact hr (ht.dedicated ha)

theorem Sound.release (ht : Sound t) (r : Role) : Sound (t.release r) where
  live_last := by
    intro s a ha
    rw [get?_live_release] at ha
    split at ha
    · cases ha
    · exact ht.live_last ha
  length := ht.length
  clear := ht.clear
  dedicated := ht.dedicated
  apart := by
    intro s u a b hsu ha hb
    rw [get?_live_release] at ha hb
    split at ha
    · cases ha
    · split at hb
      · cases hb
      · exact ht.apart hsu ha hb

theorem wifiP2p_mem_blocks :
    ReservedRanges.wifiP2pAddress.block ∈ ReservedRanges.standard.blocks := by
  decide

/-- An address that stays clear of the reserved ranges and of what other roles hold, or else the
dedicated one, may be reserved. -/
theorem Sound.reserve (ht : Sound t) (hl : a.length = Ipv4.Interface.subnetLength)
    (ha : (∀ b ∈ ReservedRanges.standard.blocks, ¬ a.block.Meets b) ∧
        (∀ s b, s ≠ r → t.live.get? s = some b → ¬ a.block.Meets b.block) ∨
      r = .wifiP2p ∧ a = ReservedRanges.wifiP2pAddress) :
    Sound (t.reserve r a) where
  live_last := by
    intro s b hb
    rw [get?_live_reserve] at hb
    rw [get?_last_reserve]
    split
    · next h => rwa [if_pos h] at hb
    · next h => exact ht.live_last (by rwa [if_neg h] at hb)
  length := by
    intro s b hb
    rw [get?_last_reserve] at hb
    split at hb
    · exact Option.some.inj hb ▸ hl
    · exact ht.length hb
  clear := by
    intro s b hb hne
    rw [get?_last_reserve] at hb
    split at hb
    · obtain rfl := Option.some.inj hb
      rcases ha with ⟨hc, _⟩ | ⟨_, rfl⟩
      · exact hc
      · exact (hne rfl).elim
    · exact ht.clear hb hne
  dedicated := by
    intro s hb
    rw [get?_last_reserve] at hb
    split at hb
    · next h =>
      obtain rfl := Option.some.inj hb
      rcases ha with ⟨hc, _⟩ | ⟨hr, _⟩
      · exact (hc _ wifiP2p_mem_blocks (Ipv4.Block.meets_self _)).elim
      · exact h.trans hr
    · exact ht.dedicated hb
  apart := by
    have hclear : ∀ s b, s ≠ r → t.live.get? s = some b → ¬ a.block.Meets b.block := by
      rcases ha with ⟨_, hc⟩ | ⟨rfl, rfl⟩
      · exact hc
      · intro s b hs hb hm
        exact ht.clear_of_ne hs (ht.live_last hb) _ wifiP2p_mem_blocks hm.symm
    intro s u b d hsu hb hd
    rw [get?_live_reserve] at hb hd
    split at hb
    · next hs =>
      obtain rfl := Option.some.inj hb
      rw [if_neg (fun hu => hsu (hs.trans hu.symm))] at hd
      exact hclear u d (fun hu => hsu (hs.trans hu.symm)) hd
    · next hs =>
      split at hd
      · obtain rfl := Option.some.inj hd
        exact fun hm => hclear s b hs hb hm.symm
      · exact ht.apart hsu hb hd

end Reservations

namespace Coordinator

variable {c : Coordinator ι} {role : Role} {reuseLast : Bool} {a : Ipv4.Interface} {o : Origin}

theorem Grant.isFree (hg : c.Grant role reuseLast a o) (ho : o ≠ .dedicated) :
    c.IsFree role a.block := by
  cases hg with
  | dedicated => exact (ho rfl).elim
  | reused _ hr => exact (reusable?_eq_some_iff.mp hr).2.2
  | drawn _ _ _ hp => exact (probe_eq_some hp).2.1

theorem Grant.sound (hs : c.reservations.Sound) (hg : c.Grant role reuseLast a o) :
    (c.reservations.reserve role a).Sound := by
  cases hg with
  | dedicated hd =>
    have hrole : role = .wifiP2p := by simp_all [isDedicated]
    exact hs.reserve rfl (Or.inr ⟨hrole, rfl⟩)
  | reused hd hr =>
    obtain ⟨hl, _, hf⟩ := reusable?_eq_some_iff.mp hr
    exact hs.reserve (hs.length hl) (Or.inl ⟨hf.reserved, hf.live⟩)
  | drawn hd hr hn hp =>
    obtain ⟨hc, hf, _⟩ := probe_eq_some hp
    obtain ⟨k, rfl⟩ := exists_subnet_of_mem_candidates hc
    exact hs.reserve rfl (Or.inl ⟨hf.reserved, hf.live⟩)

end Coordinator

section Runs

variable [DecidableEq ι] {settings : Settings} {draws : DrawSource} {policy : Option Bool}
  {p q : Routine ι} {h : List (Event ι)} {c : Coordinator ι}

theorem Routine.Reaches.sound (hr : p.Reaches (.start settings draws policy) h q c) :
    c.reservations.Sound := by
  refine hr.invariant (I := fun _ c => c.reservations.Sound) .empty ?_
  intro h c es c' hs he
  cases he with
  | granted _ hg _ ht => exact ht ▸ hg.sound hs
  | released _ ht => exact ht ▸ hs.release _
  | recorded _ _ _ ht => exact ht ▸ hs
  | forgotten _ ht => exact ht ▸ hs
  | none _ _ ht => exact ht ▸ hs

end Runs

structure Reservations.Separate (t : Reservations) : Prop where
  /-- No address lies in the blocks of two live reservations. -/
  disjoint : t.toList.Pairwise fun e f => ¬ e.block.Meets f.block
  clear : ∀ r a, r ≠ .wifiP2p → t.Held r a →
    ¬ a.block.Meets ReservedRanges.bluetoothAddress.block ∧
      ¬ a.block.Meets ReservedRanges.wifiP2pAddress.block
  /-- The peer-to-peer role comes near them with its dedicated address only. -/
  dedicated : ∀ a, t.Held .wifiP2p a →
    a.block.Meets ReservedRanges.bluetoothAddress.block ∨
      a.block.Meets ReservedRanges.wifiP2pAddress.block → a = ReservedRanges.wifiP2pAddress
  bluetooth_unheld : ∀ r a, t.Held r a → ¬ a.block.Meets ReservedRanges.bluetoothAddress.block
  dedicated_apart : ∀ e ∈ t.toList, e.role ≠ .wifiP2p →
    ¬ e.block.Meets ReservedRanges.wifiP2pAddress.block

theorem Reservations.Sound.separate {t : Reservations} (ht : t.Sound) : t.Separate := by
  have hbt : ReservedRanges.bluetoothAddress.block ∈ ReservedRanges.standard.blocks := by decide
  have hclear : ∀ r a, r ≠ .wifiP2p → t.Held r a →
      ¬ a.block.Meets ReservedRanges.bluetoothAddress.block ∧
        ¬ a.block.Meets ReservedRanges.wifiP2pAddress.block := by
    intro r a hr ha
    have hc := ht.clear_of_ne hr (ht.last_of_held ha)
    exact ⟨hc _ hbt, hc _ wifiP2p_mem_blocks⟩
  refine ⟨?_, hclear, ?_, ?_, ?_⟩
  · refine t.pairwise_role_toList.imp_of_mem ?_
    intro e f he hf hne
    exact ht.apart hne (mem_toList.mp he) (mem_toList.mp hf)
  · intro a ha hm
    by_cases hne : a = ReservedRanges.wifiP2pAddress
    · exact hne
    · rcases hm with hm | hm
      · exact (ht.clear (ht.last_of_held ha) hne _ hbt hm).elim
      · exact (ht.clear (ht.last_of_held ha) hne _ wifiP2p_mem_blocks hm).elim
  · intro r a ha
    by_cases hne : a = ReservedRanges.wifiP2pAddress
    · subst hne
      decide
    · exact ht.clear (ht.last_of_held ha) hne _ hbt
  · intro e he hr
    exact (hclear e.role e.address hr (Or.inl (mem_toList.mp he))).2

/-- Wherever a run comes by, its reservations are separate. -/
theorem reservations_separate {ι : Type} [DecidableEq ι] (settings : Settings) (draws : DrawSource)
    (policy : Option Bool) (p q : Routine ι) (h : List (Event ι)) (c : Coordinator ι)
    (hr : p.Reaches (.start settings draws policy) h q c) : c.reservations.Separate :=
  hr.sound.separate

/-- The dedicated address is up next to the one that the owner of the link has moved to. -/
theorem collision_separate :
    (Routine.collision.act .steady).state.reservations.toList =
        [⟨.wifiP2p, ReservedRanges.wifiP2pAddress⟩,
          ⟨.wifi, .inSubnet (.ofOctets 192 168 45 5)⟩] ∧
      (Routine.collision.act .steady).state.reservations.Separate :=
  ⟨by decide +kernel, reservations_separate _ _ _ _ _ _ _ Routine.collision_reaches⟩

end Downlink
