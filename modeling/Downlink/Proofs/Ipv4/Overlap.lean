import Downlink.Ipv4.Block

/-! # Overlapping blocks

Two blocks overlap exactly if they share an address. Of two blocks that share
one, the longer lies inside the shorter, so blocks of one length share an
address only if they are equal.
-/

namespace Downlink.Ipv4

namespace Block

variable {a b : Block} {x : Address}

/-- Some address lies in both blocks. -/
def Meets (a b : Block) : Prop :=
  ∃ x : Address, x ∈ a ∧ x ∈ b

instance : HasSubset Block where
  Subset a b := ∀ x : Address, x ∈ a → x ∈ b

theorem mem_iff : x ∈ b ↔ x.value / b.size = b.bits := by
  change b.contains x = true ↔ _
  simp [contains]

theorem first_mem (b : Block) : b.first ∈ b :=
  mem_iff.mpr (Nat.mul_div_cancel _ b.size_pos)

theorem last_mem (b : Block) : b.last ∈ b := by
  have hs := b.size_pos
  rw [mem_iff]
  change (b.bits * b.size + (b.size - 1)) / b.size = b.bits
  rw [Nat.mul_comm, Nat.mul_add_div hs, Nat.div_eq_of_lt (by omega), Nat.add_zero]

theorem Meets.symm (h : a.Meets b) : b.Meets a := by
  obtain ⟨x, ha, hb⟩ := h
  exact ⟨x, hb, ha⟩

theorem meets_self (b : Block) : b.Meets b :=
  ⟨b.first, b.first_mem, b.first_mem⟩

theorem size_dvd_size (h : b.length ≤ a.length) : a.size ∣ b.size := by
  simp only [size, Nat.one_shiftLeft]
  exact Nat.pow_dvd_pow 2 (by omega)

/-- Of two blocks that meet, the longer lies inside the shorter. -/
theorem Meets.subset (h : a.Meets b) (hl : b.length ≤ a.length) : a ⊆ b := by
  obtain ⟨x, ha, hb⟩ := h
  obtain ⟨m, hm⟩ := size_dvd_size hl
  intro y hy
  rw [mem_iff] at ha hb hy ⊢
  rw [hm, ← Nat.div_div_eq_div_mul, ha] at hb
  rw [hm, ← Nat.div_div_eq_div_mul, hy, hb]

theorem overlaps_iff_meets : a.overlaps b = true ↔ a.Meets b := by
  constructor
  · intro h
    simp only [overlaps, Bool.or_eq_true] at h
    rcases h with ((h | h) | h) | h
    · exact ⟨b.first, h, b.first_mem⟩
    · exact ⟨b.last, h, b.last_mem⟩
    · exact ⟨a.first, a.first_mem, h⟩
    · exact ⟨a.last, a.last_mem, h⟩
  · intro h
    rcases Nat.le_total a.length b.length with hl | hl
    · have hb : a.contains b.first = true := h.symm.subset hl b.first b.first_mem
      simp [overlaps, hb]
    · have ha : b.contains a.first = true := h.subset hl a.first a.first_mem
      simp [overlaps, ha]

instance (a b : Block) : Decidable (a.Meets b) :=
  decidable_of_iff _ overlaps_iff_meets

theorem any_overlaps_iff {bs : List Block} : bs.any a.overlaps = true ↔ ∃ b ∈ bs, a.Meets b := by
  simp only [List.any_eq_true, overlaps_iff_meets]

theorem eq_of_mem (hl : a.length = b.length) (ha : x ∈ a) (hb : x ∈ b) : a = b := by
  have hs : a.size = b.size := by rw [size, size, hl]
  rw [mem_iff] at ha hb
  have hbits : a.bits = b.bits := by rw [← ha, ← hb, hs]
  cases a
  cases b
  simp_all

theorem meets_iff_eq (hl : a.length = b.length) : a.Meets b ↔ a = b := by
  constructor
  · rintro ⟨x, ha, hb⟩
    exact eq_of_mem hl ha hb
  · rintro rfl
    exact a.meets_self

end Block

end Downlink.Ipv4
