import Downlink.Ipv4.Address

/-! # Blocks of addresses

A block holds the addresses that share their leading bits. It is given by these
bits, so its host bits are clear by construction.
-/

namespace Downlink.Ipv4

structure Block where
  length : Nat
  bits : Nat
  length_le : length ≤ 32
  bits_lt : bits < 1 <<< length
  deriving DecidableEq, Repr

namespace Block

/-- How many addresses share the leading bits. -/
def size (b : Block) : Nat :=
  1 <<< (32 - b.length)

theorem size_pos (b : Block) : 0 < b.size := by
  rw [size, Nat.one_shiftLeft]
  exact Nat.two_pow_pos _

theorem count_mul_size (b : Block) : 1 <<< b.length * b.size = 0x100000000 := by
  rw [size, Nat.one_shiftLeft, Nat.one_shiftLeft, ← Nat.pow_add, Nat.add_sub_cancel' b.length_le]

theorem bits_mul_size_add_size_le (b : Block) : b.bits * b.size + b.size ≤ 0x100000000 := by
  rw [← b.count_mul_size, ← Nat.succ_mul]
  exact Nat.mul_le_mul_right _ b.bits_lt

def first (b : Block) : Address :=
  ⟨b.bits * b.size, by have := b.bits_mul_size_add_size_le; have := b.size_pos; omega⟩

def last (b : Block) : Address :=
  ⟨b.bits * b.size + (b.size - 1),
    by have := b.bits_mul_size_add_size_le; have := b.size_pos; omega⟩

def contains (b : Block) (x : Address) : Bool :=
  x.value / b.size == b.bits

instance : Membership Address Block where
  mem b x := b.contains x = true

/-- An end of one block lies in the other. -/
def overlaps (a b : Block) : Bool :=
  a.contains b.first || a.contains b.last || b.contains a.first || b.contains a.last

end Block

/-- An address together with the length of the block it belongs to. -/
structure Interface where
  address : Address
  length : Nat
  length_le : length ≤ 32
  deriving DecidableEq, Repr

namespace Interface

/-- A subnet has 256 addresses. -/
def subnetLength : Nat := 24

theorem subnetLength_le : subnetLength ≤ 32 := by
  decide

def inSubnet (x : Address) : Interface :=
  ⟨x, subnetLength, subnetLength_le⟩

/-- The address with its host bits cleared. -/
def block (i : Interface) : Block where
  length := i.length
  bits := i.address.value >>> (32 - i.length)
  length_le := i.length_le
  bits_lt := by
    rw [Nat.shiftRight_eq_div_pow, Nat.one_shiftLeft]
    apply Nat.div_lt_of_lt_mul
    rw [← Nat.pow_add, Nat.sub_add_cancel i.length_le]
    exact i.address.value_lt

theorem address_mem_block (i : Interface) : i.address ∈ i.block := by
  show i.block.contains i.address = true
  simp [Block.contains, block, Block.size, Nat.shiftRight_eq_div_pow, Nat.one_shiftLeft]

end Interface

def Block.interface (b : Block) : Interface :=
  ⟨b.first, b.length, b.length_le⟩

theorem Block.block_interface (b : Block) : b.interface.block = b := by
  have h : (b.bits * b.size) >>> (32 - b.length) = b.bits := by
    rw [Nat.shiftRight_eq_div_pow, ← Nat.one_shiftLeft]
    exact Nat.mul_div_cancel _ b.size_pos
  cases b
  simp_all [Block.interface, Interface.block, Block.first]

end Downlink.Ipv4
