import Downlink.Proofs.Ipv4.Overlap

/-! # Leading bits

A block holds the addresses that begin like its first one, and these are the addresses between its
ends. So two blocks overlap exactly if their first addresses agree as far as the shorter of the two
reaches, and whatever overlaps a block overlaps every block around it.
-/

namespace Downlink.Ipv4

namespace Address

/-- The bit behind `k` leading ones. -/
def bit (x : Address) (k : Nat) : Bool :=
  x.value.testBit (31 - k)

/-- The addresses have their first `n` bits in common. -/
def Agree (n : Nat) (x y : Address) : Prop :=
  ∀ k < n, x.bit k = y.bit k

variable {x y z : Address} {m n : Nat}

theorem Agree.symm (h : x.Agree n y) : y.Agree n x :=
  fun k hk => (h k hk).symm

theorem Agree.trans (h : x.Agree n y) (h' : y.Agree n z) : x.Agree n z :=
  fun k hk => (h k hk).trans (h' k hk)

theorem Agree.mono (h : x.Agree n y) (hm : m ≤ n) : x.Agree m y :=
  fun k hk => h k (Nat.lt_of_lt_of_le hk hm)

theorem testBit_eq_false (x : Address) {k : Nat} (hk : 32 ≤ k) : x.value.testBit k = false :=
  Nat.testBit_lt_two_pow (Nat.lt_of_lt_of_le x.value_lt (Nat.pow_le_pow_right Nat.two_pos hk))

end Address

/-- The host bits of the first address are clear, and the others are those of the address. -/
theorem Interface.testBit_first_block (i : Interface) (k : Nat) :
    i.block.first.value.testBit k = (decide (32 - i.length ≤ k) && i.address.value.testBit k) := by
  have hfirst : i.block.first.value = i.address.value >>> (32 - i.length) <<< (32 - i.length) := by
    rw [Nat.shiftLeft_eq, ← Nat.one_shiftLeft]
    rfl
  rw [hfirst, Nat.testBit_shiftLeft, Nat.testBit_shiftRight]
  by_cases hk : 32 - i.length ≤ k
  · simp [hk]
  · simp [hk]

theorem Interface.block_eq_iff {i : Interface} {b : Block} :
    i.block = b ↔ b.length = i.length ∧
      ∀ k, b.first.value.testBit k = (decide (32 - i.length ≤ k) && i.address.value.testBit k) := by
  constructor
  · rintro rfl
    exact ⟨rfl, i.testBit_first_block⟩
  · rintro ⟨hl, hk⟩
    have hf : i.block.first = b.first :=
      Address.ext (Nat.eq_of_testBit_eq fun k => (i.testBit_first_block k).trans (hk k).symm)
    exact Block.eq_of_mem hl.symm i.block.first_mem (hf ▸ b.first_mem)

namespace Block

variable {a b c : Block} {x : Address}

theorem mem_iff_between : x ∈ b ↔ b.first.value ≤ x.value ∧ x.value ≤ b.last.value := by
  have hs := b.size_pos
  rw [mem_iff, Nat.div_eq_iff hs, Nat.add_sub_assoc hs]
  rfl

theorem mem_iff_block_eq :
    x ∈ b ↔ (⟨x, b.length, b.length_le⟩ : Interface).block = b := by
  have hx := Interface.address_mem_block ⟨x, b.length, b.length_le⟩
  constructor
  · intro h
    exact eq_of_mem rfl hx h
  · intro h
    exact h ▸ hx

theorem testBit_first (b : Block) (k : Nat) :
    b.first.value.testBit k = (decide (32 - b.length ≤ k) && b.first.value.testBit k) := by
  have h := b.interface.testBit_first_block k
  rwa [b.block_interface] at h

theorem mem_iff_agree : x ∈ b ↔ x.Agree b.length b.first := by
  rw [mem_iff_block_eq, Interface.block_eq_iff]
  constructor
  · rintro ⟨-, h⟩ k hk
    have hle : 32 - b.length ≤ 31 - k := by omega
    simp [Address.bit, h, hle]
  · intro h
    refine ⟨rfl, fun k => ?_⟩
    -- Above the address and among the host bits there is nothing to agree on.
    rcases Nat.lt_or_ge k 32 with hk | hk
    · by_cases hl : 32 - b.length ≤ k
      · have hlen := b.length_le
        have hbit := h (31 - k) (by omega)
        rw [Address.bit, Address.bit, show 31 - (31 - k) = k by omega] at hbit
        simp [hl, hbit]
      · rw [b.testBit_first]
        simp [hl]
    · rw [b.first.testBit_eq_false hk, x.testBit_eq_false hk, Bool.and_false]

theorem meets_iff_agree : a.Meets b ↔ a.first.Agree (min a.length b.length) b.first := by
  constructor
  · rintro ⟨x, ha, hb⟩
    have ha' := (mem_iff_agree.mp ha).mono (Nat.min_le_left _ b.length)
    have hb' := (mem_iff_agree.mp hb).mono (Nat.min_le_right a.length _)
    exact ha'.symm.trans hb'
  · intro h
    rcases Nat.le_total a.length b.length with hl | hl
    · rw [Nat.min_eq_left hl] at h
      exact ⟨b.first, mem_iff_agree.mpr h.symm, b.first_mem⟩
    · rw [Nat.min_eq_right hl] at h
      exact ⟨a.first, a.first_mem, mem_iff_agree.mpr h⟩

theorem meets_of_subset (h : a ⊆ b) : a.Meets b :=
  ⟨a.first, a.first_mem, h a.first a.first_mem⟩

/-- Blocks meet only if one of them contains the other. -/
theorem meets_iff_subset :
    a.Meets b ↔ b.length ≤ a.length ∧ a ⊆ b ∨ a.length ≤ b.length ∧ b ⊆ a := by
  constructor
  · intro h
    rcases Nat.le_total a.length b.length with hl | hl
    · exact Or.inr ⟨hl, h.symm.subset hl⟩
    · exact Or.inl ⟨hl, h.subset hl⟩
  · rintro (⟨-, h⟩ | ⟨-, h⟩)
    · exact meets_of_subset h
    · exact (meets_of_subset h).symm

theorem Meets.mono (h : a.Meets b) (hs : b ⊆ c) : a.Meets c := by
  obtain ⟨x, ha, hb⟩ := h
  exact ⟨x, ha, hs x hb⟩

theorem overlaps_comm (a b : Block) : a.overlaps b = b.overlaps a := by
  rw [Bool.eq_iff_iff, overlaps_iff_meets, overlaps_iff_meets]
  exact ⟨Meets.symm, Meets.symm⟩

/-- What it comes to that two blocks overlap. -/
structure OverlapLaws (a b : Block) : Prop where
  shared : a.overlaps b = true ↔ ∃ x : Address, x ∈ a ∧ x ∈ b
  leading : a.overlaps b = true ↔ ∀ k < min a.length b.length, a.first.bit k = b.first.bit k
  nested : a.overlaps b = true ↔ b.length ≤ a.length ∧ a ⊆ b ∨ a.length ≤ b.length ∧ b ⊆ a
  symm : a.overlaps b = b.overlaps a
  equal : a.length = b.length → (a.overlaps b = true ↔ a = b)
  around : a.overlaps b = true → ∀ c, b ⊆ c → a.overlaps c = true

theorem overlapLaws (a b : Block) : a.OverlapLaws b where
  shared := overlaps_iff_meets
  leading := overlaps_iff_meets.trans meets_iff_agree
  nested := overlaps_iff_meets.trans meets_iff_subset
  symm := a.overlaps_comm b
  equal hl := overlaps_iff_meets.trans (meets_iff_eq hl)
  around h _ hs := overlaps_iff_meets.mpr ((overlaps_iff_meets.mp h).mono hs)

end Block

end Downlink.Ipv4
