import Downlink.Proofs.Coordinator.Request
import Downlink.Proofs.Ipv4.LeadingBits
import Mathlib.Logic.Basic

/-! # Shared addresses

Every refusal of a block is for an address that somebody else has: a table of fixed addresses
refuses the blocks that share an address with one of its own, and a coordinator those with an
address in use. The fixed addresses themselves are always refused.
-/

namespace Downlink

open Ipv4

namespace ReservedRanges

variable {r : ReservedRanges} {b : Block} {role : Role} {a : Interface}

theorem fixedAddress?_eq_ok_iff : r.fixedAddress? role = .ok a ↔ r.fixed.get? role = some a := by
  unfold fixedAddress?
  split
  · next h => simp [h]
  · next h => simp [h]

theorem mem_blocks : b ∈ r.blocks ↔ ∃ role a, r.fixedAddress? role = .ok a ∧ a.block = b := by
  simp only [blocks, List.mem_map, Ledger.mem_values, fixedAddress?_eq_ok_iff]
  constructor
  · rintro ⟨a, ⟨role, ha⟩, hb⟩
    exact ⟨role, a, ha, hb⟩
  · rintro ⟨role, a, ha, hb⟩
    exact ⟨a, ⟨role, ha⟩, hb⟩

theorem isReserved_iff : r.isReserved b = true ↔ ∃ d ∈ r.blocks, b.Meets d :=
  Block.any_overlaps_iff

theorem isReserved_block (h : r.fixedAddress? role = .ok a) : r.isReserved a.block = true :=
  isReserved_iff.mpr ⟨_, mem_blocks.mpr ⟨role, a, h, rfl⟩, a.block.meets_self⟩

/-- What a table of fixed addresses keeps to itself. -/
structure Closed (r : ReservedRanges) : Prop where
  shared : ∀ b : Block, r.isReserved b = true ↔ ∃ d ∈ r.blocks, ∃ x : Address, x ∈ b ∧ x ∈ d
  /-- The blocks are those of the addresses that are told. -/
  told : ∀ d, d ∈ r.blocks ↔ ∃ role a, r.fixedAddress? role = .ok a ∧ a.block = d
  fixed : ∀ role ∈ r.fixed.keys,
    ∃ a, r.fixedAddress? role = .ok a ∧ r.isReserved a.block = true

theorem closed (r : ReservedRanges) : r.Closed where
  shared _ := isReserved_iff
  told _ := mem_blocks
  fixed role h := by
    obtain ⟨a, ha⟩ := Ledger.mem_keys.mp h
    have hok := fixedAddress?_eq_ok_iff.mpr ha
    exact ⟨a, hok, isReserved_block hok⟩

end ReservedRanges

namespace Coordinator

variable {ι : Type} {c : Coordinator ι} {role : Role} {b : Block}

/-- The address is reserved, or in a block of another live role or of an uplink. -/
def InUse (c : Coordinator ι) (role : Role) (x : Address) : Prop :=
  (∃ d ∈ ReservedRanges.standard.blocks, x ∈ d) ∨
    (∃ s a, s ≠ role ∧ c.reservations.live.get? s = some a ∧ x ∈ a.block) ∨
    ∃ d ∈ c.uplinks.allBlocks, x ∈ d

theorem isFree_iff : c.IsFree role b ↔ ∀ x : Address, x ∈ b → ¬ c.InUse role x := by
  constructor
  · rintro h x hb (⟨d, hd, hx⟩ | ⟨s, a, hs, ha, hx⟩ | ⟨d, hd, hx⟩)
    · exact h.reserved d hd ⟨x, hb, hx⟩
    · exact h.live s a hs ha ⟨x, hb, hx⟩
    · exact h.uplinks d hd ⟨x, hb, hx⟩
  · intro h
    constructor
    · rintro d hd ⟨x, hb, hx⟩
      exact h x hb (Or.inl ⟨d, hd, hx⟩)
    · rintro s a hs ha ⟨x, hb, hx⟩
      exact h x hb (Or.inr (Or.inl ⟨s, a, hs, ha, hx⟩))
    · rintro d hd ⟨x, hb, hx⟩
      exact h x hb (Or.inr (Or.inr ⟨d, hd, hx⟩))

theorem isTaken_iff_inUse : c.isTaken role b = true ↔ ∃ x : Address, x ∈ b ∧ c.InUse role x := by
  rw [← not_iff_not, Bool.not_eq_true, isTaken_eq_false_iff, isFree_iff]
  simp only [not_exists, not_and]

end Coordinator

/-- Blocks of whatever lengths overlap exactly if they share an address, that is if one begins like
the other and lies inside it. So whatever blocks are tested against, be it the fixed addresses of a
table or all that is in use, the test finds each shared address and nothing else. -/
theorem overlaps_shared :
    (∀ (b : Block) (x : Address),
      (x ∈ b ↔ b.first.value ≤ x.value ∧ x.value ≤ b.last.value) ∧
        (x ∈ b ↔ ∀ k < b.length, x.bit k = b.first.bit k)) ∧
      (∀ a b : Block, a.OverlapLaws b) ∧
      (∀ r : ReservedRanges, r.Closed) ∧
      ∀ (ι : Type) (c : Coordinator ι) (role : Role) (b : Block),
        c.isTaken role b = true ↔ ∃ x : Address, x ∈ b ∧ c.InUse role x :=
  ⟨fun _ _ => ⟨Block.mem_iff_between, Block.mem_iff_agree⟩, Block.overlapLaws,
    ReservedRanges.closed, fun _ _ _ _ => Coordinator.isTaken_iff_inUse⟩

/-- The halves of a block are apart. The last address of the lower half lies in it and so in the
whole, which a table with this address refuses; and so is what the table tells for another role. -/
theorem halves_shared :
    let whole := (⟨.ofOctets 10 0 0 0, 8, by decide⟩ : Interface).block
    let lower := (⟨.ofOctets 10 0 0 0, 9, by decide⟩ : Interface).block
    let upper := (⟨.ofOctets 10 128 0 0, 9, by decide⟩ : Interface).block
    let edge : Interface := ⟨.ofOctets 10 127 255 255, 32, by decide⟩
    let wide : Interface := ⟨.ofOctets 172 20 5 9, 12, by decide⟩
    let table : ReservedRanges := ⟨.ofList [(.usb, edge), (.ncm, wide)]⟩
    lower.length = upper.length ∧ lower.overlaps upper = false ∧
      lower ⊆ whole ∧ edge.block.overlaps lower = true ∧ edge.block.overlaps whole = true ∧
      (∃ d ∈ table.blocks, ∃ x : Address, x ∈ whole ∧ x ∈ d) ∧
      Role.ncm ∈ table.fixed.keys ∧
      ∃ a, table.fixedAddress? .ncm = .ok a ∧ table.isReserved a.block = true := by
  intro whole lower upper edge wide table
  obtain ⟨-, hlaws, hclosed, -⟩ := overlaps_shared
  have hapart : lower.overlaps upper = false := by
    rw [Bool.eq_false_iff, ne_eq, (hlaws lower upper).equal rfl]
    decide
  have hwhole : lower ⊆ whole := by
    rcases (hlaws lower whole).nested.mp (by decide +kernel) with ⟨-, h⟩ | ⟨h, -⟩
    · exact h
    · exact absurd h (by decide)
  have hedge : edge.block.overlaps lower = true := by decide +kernel
  have hncm : Role.ncm ∈ table.fixed.keys := by decide
  refine ⟨rfl, hapart, hwhole, hedge, (hlaws edge.block lower).around hedge whole hwhole, ?_,
    hncm, (hclosed table).fixed _ hncm⟩
  exact ((hclosed table).shared whole).mp (by decide +kernel)

end Downlink
