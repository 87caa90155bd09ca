import Downlink.Draw
import Downlink.Json.Integer

/-! # Sources of draws

A source either replays a script or takes draws from an unpredictable feed. A
script at its end repeats its last draw or, if it may not, fails; the call counts
all the same.
-/

namespace Downlink

structure Script where
  remaining : List Draw
  final : Draw
  repeats : Bool
  calls : Nat

inductive DrawSource where
  | scripted (script : Script)
  | feed (draw : Nat → Draw) (calls : Nat)

namespace Script

inductive Fault where
  | empty
  | notACollection
  | draw (fault : Json.IntegerFault)
  deriving DecidableEq, Repr

/-- A script of some draws; there has to be one at least. -/
def ofDraws? (draws : List Draw) (repeats : Bool) : Except Fault Script :=
  match draws.getLast? with
  | none => .error .empty
  | some final => .ok ⟨draws, final, repeats, 0⟩

def drawOfJson? (v : Json) : Except Fault Draw :=
  match v.toInteger? with
  | .ok n => .ok (.ofInt n)
  | .error e => .error (.draw e)

/-- A script of the members of a collection. -/
def ofJson? (draws : Json) (repeats : Bool) : Except Fault Script :=
  match draws.members? with
  | some members => do ofDraws? (← members.mapM drawOfJson?) repeats
  | none => .error .notACollection

def next? (s : Script) : Option Draw × Script :=
  match s.remaining with
  | d :: rest => (some d, { s with remaining := rest, calls := s.calls + 1 })
  | [] => (if s.repeats then some s.final else none, { s with calls := s.calls + 1 })

/-- From now on the script is one draw, repeated. -/
def pin (s : Script) (d : Draw) : Script :=
  { s with remaining := [d], final := d, repeats := true }

def Fault.message : Fault → String
  | empty => "Scripted entropy needs at least one draw"
  | notACollection => "draws are not a collection"
  | draw fault => fault.message

end Script

namespace DrawSource

def ofJson? (draws : Json) (repeats : Bool) (draw : Nat → Draw) : Except Script.Fault DrawSource :=
  match draws with
  | .null => .ok (.feed draw 0)
  | _ => (Script.ofJson? draws repeats).map .scripted

def next? : DrawSource → Option Draw × DrawSource
  | scripted s => (s.next?.1, scripted s.next?.2)
  | feed draw calls => (some (draw calls), feed draw (calls + 1))

def calls : DrawSource → Nat
  | scripted s => s.calls
  | feed _ calls => calls

end DrawSource

end Downlink
