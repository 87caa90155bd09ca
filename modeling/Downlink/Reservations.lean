import Downlink.Ipv4.Block
import Downlink.Ledger
import Downlink.Role

/-! # Reservations

The live binding of roles to addresses, and beside it the last address of each
role, which survives the release of the binding.
-/

namespace Downlink

structure Reservation where
  role : Role
  address : Ipv4.Interface
  deriving DecidableEq, Repr

def Reservation.block (r : Reservation) : Ipv4.Block :=
  r.address.block

structure Reservations where
  live : Ledger Role Ipv4.Interface
  last : Ledger Role Ipv4.Interface

namespace Reservations

def empty : Reservations :=
  ⟨.empty, .empty⟩

def reserve (t : Reservations) (role : Role) (address : Ipv4.Interface) : Reservations :=
  ⟨t.live.put role address, t.last.put role address⟩

def release (t : Reservations) (role : Role) : Reservations :=
  { t with live := t.live.erase role }

def get? (t : Reservations) (role : Role) : Option Reservation :=
  (t.live.get? role).map (⟨role, ·⟩)

def toList (t : Reservations) : List Reservation :=
  t.live.entries.map fun e => ⟨e.1, e.2⟩

def lastAddress? (t : Reservations) (role : Role) : Option Ipv4.Interface :=
  t.last.get? role

def liveBlocksExcept (t : Reservations) (role : Role) : List Ipv4.Block :=
  (t.live.others role).map fun e => e.2.block

def lastBlocksExcept (t : Reservations) (role : Role) : List Ipv4.Block :=
  (t.last.others role).map fun e => e.2.block

def ownBlocks (t : Reservations) (role : Role) : List Ipv4.Block :=
  ((t.live.get? role).toList ++ (t.last.get? role).toList).map Ipv4.Interface.block

end Reservations

end Downlink
