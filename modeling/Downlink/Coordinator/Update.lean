import Downlink.Coordinator.Basic

/-! # Uplink updates

A snapshot replaces what is known of its network. Then each live reservation
that collides with it is signalled to the listeners, which may act on the
coordinator while they are called. `react` says what a listener does.
-/

namespace Downlink.Coordinator

variable {ι : Type}

def record (s : Snapshot) : Act ι (List Ipv4.Block) := fun c =>
  match Uplinks.reported? s.addresses s.transport with
  | none => ⟨.ok [], c, []⟩
  | some blocks =>
    ⟨.ok blocks, { c with uplinks := c.uplinks.assign s.network blocks },
      [.recorded s.network blocks]⟩

def deliver (react : ι → Conflict → Act ι Unit) (conflict : Conflict) : List ι → Act ι Unit
  | [] => Act.done ()
  | l :: rest => do
    Act.perform (.delivered l conflict) id
    react l conflict
    deliver react conflict rest

/-- Signals one conflict to the listeners that are registered at this moment. -/
def signal (react : ι → Conflict → Act ι Unit) (conflict : Conflict) : Act ι Unit := do
  Act.perform (.signalled conflict) id
  fun c => deliver react conflict c.listeners c

/-- Signals each of the reservations that collides with `blocks` and returns their roles. -/
def announce (react : ι → Conflict → Act ι Unit) (network : String) (blocks : List Ipv4.Block) :
    List Reservation → Act ι (List Role)
  | [] => Act.done []
  | r :: rest =>
    if blocks.any r.block.overlaps then do
      signal react ⟨r.role, r.block, network⟩
      let roles ← announce react network blocks rest
      Act.done (r.role :: roles)
    else announce react network blocks rest

/-- Only the reservations that are live when the snapshot has been recorded are examined. -/
def update (react : ι → Conflict → Act ι Unit) (s : Snapshot) : Act ι (List Role) := do
  let blocks ← record s
  fun c => announce react s.network blocks c.reservations.toList c

def forget (network : String) : Act ι Unit := fun c =>
  if c.uplinks.knows network then
    ⟨.ok (), { c with uplinks := c.uplinks.forget network }, [.recorded network []]⟩
  else ⟨.ok (), c, []⟩

end Downlink.Coordinator
