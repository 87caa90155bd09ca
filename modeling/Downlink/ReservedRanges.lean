import Downlink.Ipv4.Block
import Downlink.Ledger
import Downlink.Role

/-! # Reserved ranges

Some roles have fixed addresses that their peers take for granted. The blocks of
these stay out of dynamic allocation even while the role is down.
-/

namespace Downlink

structure ReservedRanges where
  fixed : Ledger Role Ipv4.Interface

structure NoFixedAddress where
  role : Role

def NoFixedAddress.message (e : NoFixedAddress) : String :=
  "Role " ++ e.role.name ++ " has no fixed address"

namespace ReservedRanges

def bluetoothAddress : Ipv4.Interface :=
  .inSubnet (.ofOctets 192 168 44 1)

def wifiP2pAddress : Ipv4.Interface :=
  .inSubnet (.ofOctets 192 168 49 1)

def standard : ReservedRanges :=
  ⟨.ofList [(.bluetooth, bluetoothAddress), (.wifiP2p, wifiP2pAddress)]⟩

def blocks (r : ReservedRanges) : List Ipv4.Block :=
  r.fixed.values.map Ipv4.Interface.block

def isReserved (r : ReservedRanges) (b : Ipv4.Block) : Bool :=
  r.blocks.any b.overlaps

def fixedAddress? (r : ReservedRanges) (role : Role) : Except NoFixedAddress Ipv4.Interface :=
  match r.fixed.get? role with
  | some a => .ok a
  | none => .error ⟨role⟩

end ReservedRanges

end Downlink
