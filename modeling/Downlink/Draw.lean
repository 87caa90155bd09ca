/-! # Draws

A draw has sixteen bits: the high octet picks a subnet and the low octet a host.
-/

namespace Downlink

structure Draw where
  value : Nat
  value_lt : value < 65536
  deriving DecidableEq, Repr

namespace Draw

/-- The low sixteen bits of an integer in two's complement. -/
def ofInt (n : Int) : Draw :=
  ⟨(n % 65536).toNat, by omega⟩

def subnet (d : Draw) : Fin 256 :=
  ⟨d.value / 256, by have := d.value_lt; omega⟩

def hostMin : Fin 256 := ⟨2, by decide⟩

def hostMax : Fin 256 := ⟨254, by decide⟩

def defaultHost : Fin 256 := ⟨42, by decide⟩

/-- The low octet, unless it is taken: 0 and 1 are the network and its gateway, 255 is broadcast. -/
def host (d : Draw) : Fin 256 :=
  let low : Fin 256 := ⟨d.value % 256, Nat.mod_lt _ (by decide)⟩
  if hostMin ≤ low ∧ low ≤ hostMax then low else defaultHost

theorem hostMin_le_host (d : Draw) : hostMin ≤ d.host := by
  unfold host
  dsimp only
  split
  · next h => exact h.1
  · decide

theorem host_le_hostMax (d : Draw) : d.host ≤ hostMax := by
  unfold host
  dsimp only
  split
  · next h => exact h.2
  · decide

end Draw

end Downlink
