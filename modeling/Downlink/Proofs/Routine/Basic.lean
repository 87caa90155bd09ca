import Downlink.Coordinator.Request
import Downlink.Coordinator.Update

/-! # Routines

What clients and listeners do with a coordinator, as trees of calls. An update
says what each listener does while it lasts, which may be any routine again, so
listeners may call back at any depth and change their ways from one update to
the next. A routine reaches a point when its run comes by it, be it in the middle
of an update.
-/

namespace Downlink

/-- A call in the course of which no listener is called, or a change of the surroundings: the device
answers otherwise, the script of draws is replaced. -/
inductive Operation (ι : Type) where
  | request (role : Role) (reuseLast : Bool)
  | release (role : Role)
  | forget (network : String)
  | addListener (l : ι)
  | removeListener (l : ι)
  | answer (dedicated : Bool)
  | pin (d : Draw)

inductive Routine (ι : Type) where
  | done
  | fail (failure : Failure)
  | inspect (rest : Coordinator ι → Routine ι)
  | perform (operation : Operation ι) (rest : Except Failure Unit → Routine ι)
  | update (snapshot : Snapshot) (listeners : ι → Conflict → Routine ι)
      (rest : Except Failure (List Role) → Routine ι)

namespace Act

variable {ι α β : Type}

def attempt (x : Act ι α) (f : Except Failure α → Act ι β) : Act ι β := fun c =>
  let first := x c
  let second := f first.result first.state
  ⟨second.result, second.state, first.events ++ second.events⟩

end Act

variable {ι : Type} [DecidableEq ι]

def Operation.act : Operation ι → Act ι Unit
  | request role reuseLast => (Coordinator.request role reuseLast).andThen fun _ => Act.done ()
  | release role => Coordinator.release role
  | forget network => Coordinator.forget network
  | addListener l => fun c => ⟨.ok (), c.addListener l, []⟩
  | removeListener l => fun c => ⟨.ok (), c.removeListener l, []⟩
  | answer dedicated => fun c => ⟨.ok (), { c with policy := c.policy.answering dedicated }, []⟩
  | pin d => fun c => ⟨.ok (), (c.pin? d).getD c, []⟩

def Routine.act : Routine ι → Act ι Unit
  | done => Act.done ()
  | fail failure => Act.fail failure
  | inspect rest => fun c => (rest c).act c
  | perform operation rest => operation.act.attempt fun r => (rest r).act
  | update snapshot listeners rest =>
    (Coordinator.update (fun l k => (listeners l k).act) snapshot).attempt fun r => (rest r).act

namespace Coordinator

omit [DecidableEq ι]

variable (react : ι → Conflict → Act ι Unit)

/-- `DeliverCalls react k ls c h l c'`: while `k` is delivered to `ls` from `c` on, the listener `l`
is called after the events `h`, in the state `c'`. -/
inductive DeliverCalls (k : Conflict) :
    List ι → Coordinator ι → List (Event ι) → ι → Coordinator ι → Prop where
  | first {l : ι} {ls : List ι} {c : Coordinator ι} :
      DeliverCalls k (l :: ls) c [.delivered l k] l c
  | next {l m : ι} {ls : List ι} {c c' : Coordinator ι} {h : List (Event ι)} :
      (react l k c).result = .ok () → DeliverCalls k ls (react l k c).state h m c' →
      DeliverCalls k (l :: ls) c ([.delivered l k] ++ (react l k c).events ++ h) m c'

/-- `AnnounceSignals react network blocks rs c h k c'`: while the reservations `rs` are examined
from `c` on, the conflict `k` is signalled, as the last of the events `h`, in the state `c'`. -/
inductive AnnounceSignals (network : String) (blocks : List Ipv4.Block) :
    List Reservation → Coordinator ι → List (Event ι) → Conflict → Coordinator ι → Prop where
  | first {r : Reservation} {rs : List Reservation} {c : Coordinator ι} :
      blocks.any r.block.overlaps = true →
      AnnounceSignals network blocks (r :: rs) c
        [.signalled ⟨r.role, r.block, network⟩] ⟨r.role, r.block, network⟩ c
  | next {r : Reservation} {rs : List Reservation} {c c' : Coordinator ι} {h : List (Event ι)}
      {k : Conflict} :
      blocks.any r.block.overlaps = true →
      (signal react ⟨r.role, r.block, network⟩ c).result = .ok () →
      AnnounceSignals network blocks rs (signal react ⟨r.role, r.block, network⟩ c).state h k c' →
      AnnounceSignals network blocks (r :: rs) c
        ((signal react ⟨r.role, r.block, network⟩ c).events ++ h) k c'
  | pass {r : Reservation} {rs : List Reservation} {c c' : Coordinator ι} {h : List (Event ι)}
      {k : Conflict} :
      blocks.any r.block.overlaps = false →
      AnnounceSignals network blocks rs c h k c' →
      AnnounceSignals network blocks (r :: rs) c h k c'

/-- An update of `s` in `c` signals `k` as the last of the events `h`, in the state `c'`. Updates
that listeners make meanwhile signal for themselves. -/
inductive UpdateSignals (s : Snapshot) (c : Coordinator ι) :
    List (Event ι) → Conflict → Coordinator ι → Prop where
  | intro {blocks : List Ipv4.Block} {h : List (Event ι)} {k : Conflict} {c' : Coordinator ι} :
      (record s c).result = .ok blocks →
      AnnounceSignals react s.network blocks (record s c).state.reservations.toList
        (record s c).state h k c' →
      UpdateSignals s c ((record s c).events ++ h) k c'

/-- An update of `s` in `c` calls `l` with `k` after the events `h`, in the state `c'`. -/
inductive UpdateCalls (s : Snapshot) (c : Coordinator ι) :
    List (Event ι) → ι → Conflict → Coordinator ι → Prop where
  | intro {h h' : List (Event ι)} {l : ι} {k : Conflict} {c₁ c' : Coordinator ι} :
      UpdateSignals react s c h k c₁ → DeliverCalls react k c₁.listeners c₁ h' l c' →
      UpdateCalls s c (h ++ h') l k c'

end Coordinator

namespace Routine

/-- `p.Reaches c h q c'`: a run of `p` from `c` comes, after the events `h`, to the state `c'`,
where `q` is what the client or listener whose turn it is has yet to do. -/
inductive Reaches :
    Routine ι → Coordinator ι → List (Event ι) → Routine ι → Coordinator ι → Prop where
  | here {p : Routine ι} {c : Coordinator ι} : Reaches p c [] p c
  | inspected {rest : Coordinator ι → Routine ι} {q : Routine ι} {c c' : Coordinator ι}
      {h : List (Event ι)} :
      Reaches (rest c) c h q c' → Reaches (.inspect rest) c h q c'
  | performed {op : Operation ι} {rest : Except Failure Unit → Routine ι} {q : Routine ι}
      {c c' : Coordinator ι} {h : List (Event ι)} :
      Reaches (rest (op.act c).result) (op.act c).state h q c' →
      Reaches (.perform op rest) c ((op.act c).events ++ h) q c'
  | updated {s : Snapshot} {ls : ι → Conflict → Routine ι}
      {rest : Except Failure (List Role) → Routine ι} {q : Routine ι} {c c' : Coordinator ι}
      {h : List (Event ι)} :
      Reaches (rest (Coordinator.update (fun l k => (ls l k).act) s c).result)
        (Coordinator.update (fun l k => (ls l k).act) s c).state h q c' →
      Reaches (.update s ls rest) c
        ((Coordinator.update (fun l k => (ls l k).act) s c).events ++ h) q c'
  | called {s : Snapshot} {ls : ι → Conflict → Routine ι}
      {rest : Except Failure (List Role) → Routine ι} {q : Routine ι} {c c₁ c' : Coordinator ι}
      {h h' : List (Event ι)} {l : ι} {k : Conflict} :
      Coordinator.UpdateCalls (fun l k => (ls l k).act) s c h l k c₁ →
      Reaches (ls l k) c₁ h' q c' →
      Reaches (.update s ls rest) c (h ++ h') q c'

omit [DecidableEq ι]

/-- What an owner does whose link collides: it gives up the address and asks for another. -/
def yield (k : Conflict) : Routine ι :=
  .perform (.release k.role) fun _ => .perform (.request k.role true) fun _ => .done

/-- A shared link and a dedicated one are up when an uplink collides with the first, whose owner
listens and yields. -/
def collision : Routine String :=
  .perform (.addListener "owner") fun _ =>
  .perform (.request .wifi false) fun _ =>
  .perform (.request .wifiP2p false) fun _ =>
  .update ⟨"office", some .wifi, ["192.168.43.9/24"]⟩ (fun _ k => yield k) fun _ => .done

end Routine

def Coordinator.steady : Coordinator String :=
  .start .standard (.feed (fun _ => ⟨0x2b05, by decide⟩) 0) (some true)

theorem Routine.collision_reaches : collision.Reaches .steady (collision.act .steady).events .done
    (collision.act .steady).state :=
  .performed (.performed (.performed (.updated .here)))

end Downlink
