import Downlink.Ipv4.Block
import Downlink.Role
import Downlink.Transport

/-! # Snapshots and conflicts

A snapshot is what is known of one uplink network. A conflict tells the owner
of a role that its block collides with that network.
-/

namespace Downlink

structure Snapshot where
  network : String
  transport : Option Transport
  addresses : List String
  deriving DecidableEq, Repr

structure Conflict where
  role : Role
  block : Ipv4.Block
  network : String
  deriving DecidableEq, Repr

end Downlink
