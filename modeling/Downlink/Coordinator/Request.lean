import Downlink.Coordinator.Basic

/-! # Requests and releases

A request is answered by the dedicated address, by the last address of the role,
or by probing the subnets of the base block from the drawn one on. A probe stays
clear of every block in use and, as long as there is a choice, of the blocks
that were held last.
-/

namespace Downlink.Coordinator

variable {ι : Type}

/-- Whether `block` collides with a reserved range, with what another role holds or with an uplink
network. -/
def isTaken (c : Coordinator ι) (role : Role) (block : Ipv4.Block) : Bool :=
  ReservedRanges.standard.isReserved block ||
    (c.reservations.liveBlocksExcept role).any block.overlaps ||
    c.uplinks.allBlocks.any block.overlaps

/-- The blocks to avoid while there is a choice: those that other roles held last and, for a fresh
address, the role's own. -/
def avoided (c : Coordinator ι) (role : Role) (reuseLast : Bool) : List Ipv4.Block :=
  c.reservations.lastBlocksExcept role ++
    if reuseLast then [] else c.reservations.ownBlocks role

/-- A host in a subnet of the base block. -/
def addressIn (c : Coordinator ι) (subnet host : Fin 256) : Ipv4.Interface :=
  .inSubnet ⟨(c.settings.base * 256 + subnet.val) * 256 + host.val,
    by have := c.settings.base_lt; omega⟩

/-- The addresses that a draw makes a request try, in order: the same host in the drawn subnet and
in those after it, around the end of the base block. -/
def candidates (c : Coordinator ι) (d : Draw) : List Ipv4.Interface :=
  (List.range (min c.settings.maxAttempts Settings.subnetCount)).map fun i =>
    c.addressIn ⟨(d.subnet.val + i) % 256, Nat.mod_lt _ (by decide)⟩ d.host

/-- Passes through candidates and takes the first free one that need not be avoided. The first free
one that it passed over is remembered, and taken if no other is left. -/
def pick (isFree isAvoided : Ipv4.Interface → Bool) (passed : Option Ipv4.Interface) :
    List Ipv4.Interface → Option Ipv4.Interface
  | [] => passed
  | a :: rest =>
    if !isFree a then pick isFree isAvoided passed rest
    else if isAvoided a then pick isFree isAvoided (passed <|> some a) rest
    else some a

def probe (c : Coordinator ι) (role : Role) (reuseLast : Bool) (d : Draw) : Option Ipv4.Interface :=
  let avoided := c.avoided role reuseLast
  pick (fun a => !c.isTaken role a.block) (fun a => avoided.contains a.block) none (c.candidates d)

/-- The last address of the role, if it is wanted and still free. -/
def reusable? (c : Coordinator ι) (role : Role) (reuseLast : Bool) : Option Ipv4.Interface :=
  (c.reservations.lastAddress? role).filter fun a => reuseLast && !c.isTaken role a.block

def isDedicated (c : Coordinator ι) (role : Role) : Bool :=
  role = .wifiP2p && c.policy.answer

/-- The device is asked for its policy only on behalf of the peer-to-peer role. -/
def consult (c : Coordinator ι) (role : Role) : Coordinator ι :=
  if role = .wifiP2p then { c with policy := c.policy.consulted } else c

def grant (role : Role) (address : Ipv4.Interface) (origin : Origin) :
    Act ι Ipv4.Interface := fun c =>
  ⟨.ok address, { c with reservations := c.reservations.reserve role address },
    [.granted role address origin]⟩

def allocate (role : Role) (reuseLast : Bool) : Act ι Ipv4.Interface := fun c =>
  let drawn := { c with draws := c.draws.next?.2 }
  match c.draws.next?.1 with
  | none => ⟨.error .outOfDraws, drawn, [.refused role]⟩
  | some d =>
    match c.probe role reuseLast d with
    | some a => grant role a .drawn drawn
    | none => ⟨.error (.exhausted role), drawn, [.refused role]⟩

def request (role : Role) (reuseLast : Bool) : Act ι Ipv4.Interface := fun c =>
  if c.isDedicated role then
    grant role ReservedRanges.wifiP2pAddress .dedicated (c.consult role)
  else
    match c.reusable? role reuseLast with
    | some a => grant role a .reused (c.consult role)
    | none => allocate role reuseLast (c.consult role)

/-- Ends a reservation, if there is one; the address is remembered. -/
def release (role : Role) : Act ι Unit := fun c =>
  match c.reservations.live.get? role with
  | none => ⟨.ok (), c, []⟩
  | some _ => ⟨.ok (), { c with reservations := c.reservations.release role }, [.released role]⟩

end Downlink.Coordinator
