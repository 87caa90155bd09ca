import Downlink.Coordinator.Request
import Downlink.Coordinator.Update

/-! # Named listeners

Listeners with a stock behaviour. A name stands for one listener: the behaviour
with which it is first registered is the one it keeps.
-/

namespace Downlink

inductive Behaviour where
  | record
  | raise
  | once
  | release
  | rerequest
  | spawn
  deriving DecidableEq, Repr

structure Listener where
  name : String
  behaviour : Behaviour
  deriving DecidableEq, Repr

def Behaviour.ofName? : String → Option Behaviour
  | "record" => some .record
  | "raise" => some .raise
  | "once" => some .once
  | "release" => some .release
  | "rerequest" => some .rerequest
  | "spawn" => some .spawn
  | _ => none

namespace Listener

/-- The listener of a name: one that is known, else a new one. -/
def named (known : List Listener) (name : String) (behaviour : Behaviour) : Listener :=
  (known.find? fun l => l.name = name).getD ⟨name, behaviour⟩

/-- The listener that a spawning one registers beside itself. -/
def offspring (known : List Listener) (l : Listener) : Listener :=
  named known (l.name ++ "+") .record

def react (known : List Listener) (l : Listener) (conflict : Conflict) : Act Listener Unit :=
  match l.behaviour with
  | .record => Act.done ()
  | .raise => Act.fail (.listener ("listener " ++ l.name ++ " failed"))
  | .once => fun c => ⟨.ok (), c.removeListener l, []⟩
  | .release => Coordinator.release conflict.role
  | .rerequest => do
    Coordinator.release conflict.role
    let _ ← Coordinator.request conflict.role true
    Act.done ()
  | .spawn => fun c => ⟨.ok (), c.addListener (l.offspring known), []⟩

end Listener

/-- A coordinator with named listeners, and all listeners it has met so far. -/
structure Session where
  coordinator : Coordinator Listener
  known : List Listener

namespace Session

def meet (known : List Listener) (l : Listener) : List Listener :=
  if known.any fun k => k.name = l.name then known else known ++ [l]

/-- The listeners met in the course of some events, offspring included. -/
def metIn (known : List Listener) (events : List (Event Listener)) : List Listener :=
  events.foldl (fun known event =>
    match event with
    | .delivered l _ => if l.behaviour = .spawn then meet known (l.offspring known) else known
    | _ => known) known

def addListener (s : Session) (name : String) (behaviour : Behaviour) : Session :=
  let l := Listener.named s.known name behaviour
  ⟨s.coordinator.addListener l, meet s.known l⟩

def removeListener (s : Session) (name : String) : Session :=
  match s.known.find? fun l => l.name = name with
  | some l => { s with coordinator := s.coordinator.removeListener l }
  | none => s

/-- Runs an action; what it does to the listeners is kept whether it fails or not. -/
def run {α : Type} (s : Session) (action : Act Listener α) :
    Except Failure α × List (Event Listener) × Session :=
  let outcome := action s.coordinator
  (outcome.result, outcome.events, ⟨outcome.state, metIn s.known outcome.events⟩)

def update (s : Session) (snapshot : Snapshot) : Act Listener (List Role) :=
  Coordinator.update (Listener.react s.known) snapshot

end Session

end Downlink
