import Downlink.Proofs.Reservations.Separation
import Mathlib.Data.Fintype.Card

/-! # Vacant subnets

A subnet is vacant if no uplink comes near it. Of the vacant ones the two reserved
ranges and the last addresses of the five other roles can take seven away, for
live addresses are last ones as well. So eight leave a choice, and nine leave one
to a role that is to move away from its own address.
-/

namespace Downlink

namespace Reservations

variable {t : Reservations} {r : Role}

theorem length_lastBlocksExcept_le (t : Reservations) (r : Role) :
    (t.lastBlocksExcept r).length ≤ 5 := by
  have hr : r ∉ (t.last.others r).map Prod.fst := by
    simp [Ledger.others]
  have hsub : r :: (t.last.others r).map Prod.fst ⊆ Role.all := fun s _ => s.mem_all
  have hlen := (List.subperm_of_subset (.cons hr (t.last.nodup_keys_others r)) hsub).length_le
  simp only [List.length_cons, List.length_map, Role.all, List.length_nil] at hlen
  rw [lastBlocksExcept, List.length_map]
  omega

/-- A live address is the last one, so the role has a single block of its own. -/
theorem Sound.mem_ownBlocks (ht : t.Sound) {b : Ipv4.Block} :
    b ∈ t.ownBlocks r ↔ b ∈ (t.last.get? r).toList.map Ipv4.Interface.block := by
  rw [Reservations.mem_ownBlocks]
  simp only [List.mem_map, Option.mem_toList]
  constructor
  · rintro ⟨a, ha | ha, rfl⟩
    · exact ⟨a, ht.live_last ha, rfl⟩
    · exact ⟨a, ha, rfl⟩
  · rintro ⟨a, ha, rfl⟩
    exact ⟨a, Or.inr ha, rfl⟩

end Reservations

namespace Coordinator

variable {ι : Type} {c : Coordinator ι} {role : Role} {reuseLast : Bool} {a : Ipv4.Interface}
  {d : Draw} {k : Fin 256}

def vacant (c : Coordinator ι) : Finset (Fin 256) :=
  Finset.univ.filter fun k => ∀ b ∈ c.uplinks.allBlocks, ¬ (c.settings.subnet k).Meets b

theorem mem_vacant : k ∈ c.vacant ↔ ∀ b ∈ c.uplinks.allBlocks, ¬ (c.settings.subnet k).Meets b := by
  simp [vacant]

/-- Fewer blocks than there are vacant subnets miss one of these. -/
theorem exists_vacant_notMem {blocks : List Ipv4.Block} (h : blocks.length < c.vacant.card) :
    ∃ k ∈ c.vacant, c.settings.subnet k ∉ blocks := by
  have hcard : blocks.toFinset.card < (c.vacant.image c.settings.subnet).card := by
    rw [Finset.card_image_of_injective _ c.settings.subnet_injective]
    exact (List.toFinset_card_le blocks).trans_lt h
  obtain ⟨b, hb, hn⟩ := Finset.exists_mem_notMem_of_card_lt_card hcard
  obtain ⟨k, hk, rfl⟩ := Finset.mem_image.mp hb
  exact ⟨k, hk, fun hm => hn (List.mem_toFinset.mpr hm)⟩

/-- Blocks of one length meet only if they are the same, so what the probe excludes it excludes by
name. -/
theorem isFree_subnet (hs : c.reservations.Sound) (hk : k ∈ c.vacant)
    (hr : c.settings.subnet k ∉ ReservedRanges.standard.blocks)
    (hl : c.settings.subnet k ∉ c.reservations.lastBlocksExcept role) :
    c.IsFree role (c.settings.subnet k) where
  reserved := by
    intro b hb hm
    have hlen : ∀ b ∈ ReservedRanges.standard.blocks, b.length = Ipv4.Interface.subnetLength := by
      decide
    exact hr ((Ipv4.Block.meets_iff_eq (hlen b hb).symm).mp hm ▸ hb)
  live := by
    intro s a hne ha hm
    have hlast := hs.live_last ha
    refine hl (Reservations.mem_lastBlocksExcept.mpr ⟨s, a, hne, hlast, ?_⟩)
    exact ((Ipv4.Block.meets_iff_eq (hs.length hlast).symm).mp hm).symm
  uplinks := mem_vacant.mp hk

theorem exists_isFree (hs : c.reservations.Sound) (role : Role) (own : List Ipv4.Block)
    (h : 7 + own.length < c.vacant.card) :
    ∃ k, c.IsFree role (c.settings.subnet k) ∧
      c.settings.subnet k ∉ c.reservations.lastBlocksExcept role ∧ c.settings.subnet k ∉ own := by
  have hres : ReservedRanges.standard.blocks.length = 2 := rfl
  have hlast := c.reservations.length_lastBlocksExcept_le role
  have hlt : (ReservedRanges.standard.blocks ++ c.reservations.lastBlocksExcept role ++
      own).length < c.vacant.card := by
    simp only [List.length_append]
    omega
  obtain ⟨k, hk, hn⟩ := exists_vacant_notMem hlt
  simp only [List.mem_append, not_or] at hn
  exact ⟨k, isFree_subnet hs hk hn.1.1 hn.1.2, hn.1.2, hn.2⟩

/-- With so many vacant subnets a request need not take what it should avoid. -/
theorem exists_choice (hs : c.reservations.Sound) (role : Role) (reuseLast : Bool)
    (h : (if reuseLast then 8 else 9) ≤ c.vacant.card) :
    ∃ k, c.IsFree role (c.settings.subnet k) ∧ c.settings.subnet k ∉ c.avoided role reuseLast := by
  cases reuseLast with
  | true =>
    obtain ⟨k, hf, hl, _⟩ := exists_isFree hs role [] h
    exact ⟨k, hf, by simpa [avoided] using hl⟩
  | false =>
    have hone := Option.length_toList_le (o := c.reservations.last.get? role)
    have hown : 7 + ((c.reservations.last.get? role).toList.map Ipv4.Interface.block).length <
        c.vacant.card := by
      rw [List.length_map]
      exact (Nat.add_le_add_left hone 7).trans_lt h
    obtain ⟨k, hf, hl, ho⟩ := exists_isFree hs role _ hown
    refine ⟨k, hf, ?_⟩
    rw [avoided, List.mem_append, not_or]
    exact ⟨hl, fun hm => ho (hs.mem_ownBlocks.mp hm)⟩

theorem Grant.eq_drawn {o : Origin} (hg : c.Grant role reuseLast a o)
    (hd : c.isDedicated role = false) (hr : c.reusable? role reuseLast = none) : o = .drawn := by
  cases hg with
  | dedicated h => cases hd.symm.trans h
  | reused _ h => cases hr.symm.trans h
  | drawn => rfl

section Probe

variable (hm : 256 ≤ c.settings.maxAttempts) (hs : c.reservations.Sound)
include hm hs

theorem probe_ne_none (h : 8 ≤ c.vacant.card) (d : Draw) : c.probe role reuseLast d ≠ none := by
  obtain ⟨k, hf, _⟩ := exists_isFree hs role [] h
  rw [← block_addressIn c k d.host] at hf
  exact fun hp => probe_eq_none_iff.mp hp _ (mem_candidates hm k) hf

theorem notMem_avoided_of_probe (h : (if reuseLast then 8 else 9) ≤ c.vacant.card)
    (hp : c.probe role reuseLast d = some a) : a.block ∉ c.avoided role reuseLast := by
  obtain ⟨k, hf, hk⟩ := exists_choice hs role reuseLast h
  rw [← block_addressIn c k d.host] at hf hk
  exact fun ha => hk ((probe_eq_some hp).2.2 ha _ (mem_candidates hm k) hf)

theorem Grant.drawn_apart (hg : c.Grant role reuseLast a .drawn)
    (h : (if reuseLast then 8 else 9) ≤ c.vacant.card) {s : Role} {b : Ipv4.Interface}
    (hb : c.reservations.Held s b) (hsr : s ≠ role ∨ reuseLast = false) :
    ¬ a.block.Meets b.block := by
  cases hg with
  | drawn _ _ _ hp =>
    have hn := notMem_avoided_of_probe hm hs h hp
    rw [avoided, List.mem_append, not_or] at hn
    obtain ⟨k, rfl⟩ := exists_subnet_of_mem_candidates (probe_eq_some hp).1
    have hlast := hs.last_of_held hb
    intro hmeet
    have heq := (Ipv4.Block.meets_iff_eq (hs.length hlast).symm).mp hmeet
    by_cases hsr' : s = role
    · have hr : reuseLast = false := hsr.resolve_left fun hne => hne hsr'
      subst hsr' hr
      exact hn.2 (Reservations.mem_ownBlocks.mpr ⟨b, hb, heq.symm⟩)
    · exact hn.1 (Reservations.mem_lastBlocksExcept.mpr ⟨s, b, hsr', hlast, heq.symm⟩)

end Probe

structure Serves (c : Coordinator ι) (role : Role) : Prop where
  not_exhausted : 8 ≤ c.vacant.card → ∀ reuseLast r,
    (request role reuseLast c).result ≠ .error (.exhausted r)
  granted : 8 ≤ c.vacant.card → c.draws.next?.1 ≠ none → ∀ reuseLast, ∃ a,
    (request role reuseLast c).result = .ok a
  drawn : 8 ≤ c.vacant.card → c.isDedicated role = false → c.reusable? role true = none → ∀ a,
    (request role true c).result = .ok a → ∀ s b, s ≠ role → c.reservations.Held s b →
    ¬ a.block.Meets b.block
  /-- A fresh address is apart from the role's own and from all others. -/
  fresh : 9 ≤ c.vacant.card → c.isDedicated role = false → c.draws.next?.1 ≠ none → ∃ a,
    (request role false c).result = .ok a ∧ ∀ s b, c.reservations.Held s b →
    ¬ a.block.Meets b.block

theorem serves (hm : 256 ≤ c.settings.maxAttempts) (hs : c.reservations.Sound) (role : Role) :
    c.Serves role := by
  have hok : 8 ≤ c.vacant.card → ∀ reuseLast, (∃ a o, c.Grant role reuseLast a o) ∨
      c.draws.next?.1 = none ∧ c.Refusal role reuseLast .outOfDraws := by
    intro h reuseLast
    rcases c.grant_or_refusal role reuseLast with hg | ⟨f, hf⟩
    · exact Or.inl hg
    · cases hf with
      | outOfDraws hd hr hn => exact Or.inr ⟨hn, .outOfDraws hd hr hn⟩
      | exhausted _ _ _ hp => exact (probe_ne_none hm hs h _ hp).elim
  refine ⟨?_, ?_, ?_, ?_⟩
  · intro h reuseLast r hres
    rcases hok h reuseLast with ⟨a, o, hg⟩ | ⟨_, hf⟩
    · rw [request_of_grant hg] at hres
      cases hres
    · rw [request_of_refusal hf] at hres
      cases hres
  · intro h hd reuseLast
    rcases hok h reuseLast with ⟨a, o, hg⟩ | ⟨hn, _⟩
    · exact ⟨a, by rw [request_of_grant hg]⟩
    · exact (hd hn).elim
  · intro h hd hr a hres s b hsr hb
    rcases hok h true with ⟨a', o, hg⟩ | ⟨_, hf⟩
    · rw [request_of_grant hg, Except.ok.injEq] at hres
      subst hres
      obtain rfl := hg.eq_drawn hd hr
      exact hg.drawn_apart hm hs h hb (Or.inl hsr)
    · rw [request_of_refusal hf] at hres
      cases hres
  · intro h hd hn
    rcases hok (by omega) false with ⟨a, o, hg⟩ | ⟨hn', _⟩
    · have hr : c.reusable? role false = none := by simp [reusable?]
      obtain rfl := hg.eq_drawn hd hr
      refine ⟨a, by rw [request_of_grant hg], fun s b hb => ?_⟩
      exact hg.drawn_apart hm hs h hb (Or.inr rfl)
    · exact (hn hn').elim

end Coordinator

/-- With vacant subnets enough nobody is refused, and nobody is given what others may want back. -/
theorem requests_served {ι : Type} [DecidableEq ι] (settings : Settings) (draws : DrawSource)
    (policy : Option Bool) (p q : Routine ι) (h : List (Event ι)) (c : Coordinator ι)
    (hm : 256 ≤ settings.maxAttempts) (hr : p.Reaches (.start settings draws policy) h q c)
    (role : Role) : c.Serves role := by
  have hset : c.settings = settings := hr.settings
  exact Coordinator.serves (hset ▸ hm) hr.sound role

/-- After the collision one subnet is not vacant, and the owner can move away again. -/
theorem collision_served :
    (Routine.collision.act .steady).state.vacant.card = 255 ∧
      ∃ a, (Coordinator.request .wifi false (Routine.collision.act .steady).state).result = .ok a ∧
        ¬ a.block.Meets (Ipv4.Interface.inSubnet (.ofOctets 192 168 45 5)).block := by
  have hcard : (Routine.collision.act .steady).state.vacant.card = 255 := by decide +kernel
  have hs := requests_served _ _ _ _ _ _ _ (by decide) Routine.collision_reaches .wifi
  obtain ⟨a, ha, hn⟩ := hs.fresh (by rw [hcard]; decide) rfl (by decide +kernel)
  exact ⟨hcard, a, ha, hn .wifi _ (Or.inl (by decide +kernel))⟩

end Downlink
