import Downlink.Conflict
import Downlink.DrawSource
import Downlink.Reservations
import Downlink.ReservedRanges
import Downlink.Settings.Basic
import Downlink.Uplinks

/-! # The coordinator

The state behind all requests, and the actions on it. An action gives a result
or a failure, the next state in either case, and the events that took place.
Listeners have names of type `ι`.
-/

namespace Downlink

/-- Whether the peer-to-peer role is to have its dedicated address: settled by the settings, or
asked of the device each time. -/
inductive Policy where
  | settled (dedicated : Bool)
  | asked (answer : Bool) (calls : Nat)
  deriving DecidableEq, Repr

namespace Policy

def answer : Policy → Bool
  | settled dedicated => dedicated
  | asked answer _ => answer

def consulted : Policy → Policy
  | settled dedicated => settled dedicated
  | asked answer calls => asked answer (calls + 1)

def calls : Policy → Nat
  | settled _ => 0
  | asked _ calls => calls

/-- Changes what the device answers; settings stay as they are. -/
def answering (p : Policy) (answer : Bool) : Policy :=
  match p with
  | settled dedicated => settled dedicated
  | asked _ calls => asked answer calls

end Policy

structure Coordinator (ι : Type) where
  settings : Settings
  draws : DrawSource
  policy : Policy
  reservations : Reservations
  uplinks : Uplinks
  listeners : List ι

/-- Where a granted address comes from. -/
inductive Origin where
  | dedicated
  | reused
  | drawn
  deriving DecidableEq, Repr

/-- What an action did, in the order in which it did it. -/
inductive Event (ι : Type) where
  | granted (role : Role) (address : Ipv4.Interface) (origin : Origin)
  | refused (role : Role)
  | released (role : Role)
  | recorded (network : String) (blocks : List Ipv4.Block)
  | signalled (conflict : Conflict)
  | delivered (listener : ι) (conflict : Conflict)
  deriving DecidableEq, Repr

inductive Failure where
  | exhausted (role : Role)
  | outOfDraws
  | listener (message : String)
  deriving DecidableEq, Repr

def Failure.message : Failure → String
  | exhausted role => "Address pool exhausted: no free prefix for " ++ role.name
  | outOfDraws => "Scripted entropy exhausted"
  | listener message => message

structure Outcome (ι α : Type) where
  result : Except Failure α
  state : Coordinator ι
  events : List (Event ι)

def Act (ι α : Type) : Type :=
  Coordinator ι → Outcome ι α

namespace Act

variable {ι α β : Type}

def done (a : α) : Act ι α :=
  fun c => ⟨.ok a, c, []⟩

def fail (f : Failure) : Act ι α :=
  fun c => ⟨.error f, c, []⟩

/-- A failure of the first action ends the whole; what was done until then remains. -/
def andThen (x : Act ι α) (f : α → Act ι β) : Act ι β := fun c =>
  let first := x c
  match first.result with
  | .ok a =>
    let second := f a first.state
    ⟨second.result, second.state, first.events ++ second.events⟩
  | .error e => ⟨.error e, first.state, first.events⟩

instance : Monad (Act ι) where
  pure := done
  bind := andThen

/-- Changes the state and reports one event. -/
def perform (event : Event ι) (change : Coordinator ι → Coordinator ι) : Act ι Unit :=
  fun c => ⟨.ok (), change c, [event]⟩

end Act

namespace Coordinator

variable {ι : Type}

/-- A coordinator at its start; without a device to ask, the policy is the flag of the settings. -/
def start (settings : Settings) (draws : DrawSource) (policy : Option Bool) : Coordinator ι where
  settings := settings
  draws := draws
  policy := match policy with
    | some answer => .asked answer 0
    | none => .settled settings.dedicatedP2p.isTruthy
  reservations := .empty
  uplinks := .empty
  listeners := []

/-- Replaces the script of draws by a single one; a feed takes no script. -/
def pin? (c : Coordinator ι) (d : Draw) : Option (Coordinator ι) :=
  match c.draws with
  | .scripted script => some { c with draws := .scripted (script.pin d) }
  | .feed _ _ => none

/-- The tracked blocks of each network as sorted texts. -/
def uplinkTexts (c : Coordinator ι) : List (String × List String) :=
  c.uplinks.entries.entries.map fun e => (e.1, Ipv4.sortedTexts e.2)

/-- A listener that is registered already keeps its place. -/
def addListener [DecidableEq ι] (l : ι) (c : Coordinator ι) : Coordinator ι :=
  { c with listeners := if l ∈ c.listeners then c.listeners else c.listeners ++ [l] }

def removeListener [DecidableEq ι] (l : ι) (c : Coordinator ι) : Coordinator ι :=
  { c with listeners := c.listeners.erase l }

end Coordinator

end Downlink
