/-! # IPv4 addresses

An address is a number of 32 bits, written as four octets.
-/

namespace Downlink.Ipv4

@[ext]
structure Address where
  value : Nat
  value_lt : value < 0x100000000
  deriving DecidableEq, Repr

namespace Address

def ofOctets (a b c d : Fin 256) : Address :=
  ⟨((a.val * 256 + b.val) * 256 + c.val) * 256 + d.val, by omega⟩

/-- The octet above `k` lower ones. -/
def octet (x : Address) (k : Nat) : Fin 256 :=
  ⟨x.value >>> (8 * k) % 256, Nat.mod_lt _ (by decide)⟩

theorem ofOctets_octet (x : Address) :
    ofOctets (x.octet 3) (x.octet 2) (x.octet 1) (x.octet 0) = x := by
  have := x.value_lt
  apply Address.ext
  simp only [ofOctets, octet]
  omega

end Address

end Downlink.Ipv4
