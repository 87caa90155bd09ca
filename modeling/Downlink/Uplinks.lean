import Downlink.Ipv4.Collect
import Downlink.Ledger
import Downlink.Transport

/-! # Uplink blocks

The IPv4 blocks last reported for each uplink network. Virtual private
networks are ignored; a network without a transport or without an IPv4 address
has no entry.
-/

namespace Downlink

structure Uplinks where
  entries : Ledger String (List Ipv4.Block)

structure NotACollection where
  given : Json

namespace Uplinks

def empty : Uplinks :=
  ⟨.empty⟩

/-- The blocks that a report stands for, or none if it says nothing about the network. -/
def reported? (addresses : List String) : Option Transport → Option (List Ipv4.Block)
  | some .vpn => none
  | none => some []
  | some _ => some (Ipv4.blocksOf addresses)

/-- Replaces the entry of a network; an entry without blocks is dropped. -/
def assign (u : Uplinks) (network : String) (blocks : List Ipv4.Block) : Uplinks :=
  ⟨if blocks.isEmpty then u.entries.erase network else u.entries.put network blocks⟩

def report (u : Uplinks) (network : String) (addresses : List String)
    (transport : Option Transport) : List Ipv4.Block × Uplinks :=
  match reported? addresses transport with
  | none => ([], u)
  | some blocks => (blocks, u.assign network blocks)

/-- The addresses of a report in any collection; they are looked at only if the transport makes them
matter. -/
def addressesOf? (addresses : Json) (transport : Option Transport) :
    Except NotACollection (List String) :=
  if transport = none ∨ transport = some .vpn then .ok []
  else
    match addresses.memberTexts? with
    | some texts => .ok texts
    | none => .error ⟨addresses⟩

def forget (u : Uplinks) (network : String) : Uplinks :=
  ⟨u.entries.erase network⟩

def knows (u : Uplinks) (network : String) : Bool :=
  (u.entries.get? network).isSome

def blocksFor (u : Uplinks) (network : String) : List Ipv4.Block :=
  (u.entries.get? network).getD []

def networks (u : Uplinks) : List String :=
  u.entries.keys

def allBlocks (u : Uplinks) : List Ipv4.Block :=
  u.entries.values.flatten

end Uplinks

end Downlink
