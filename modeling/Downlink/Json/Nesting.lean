import Downlink.Json.Basic

/-! # Nesting

How deep a value is nested, and whether there is room for that. A value that is
read takes room for every collection that is open, and one that is shown takes
room for every member within another.
-/

namespace Downlink.Json

inductive Collection where
  | array
  | object
  deriving DecidableEq, Repr

/-- A collection is opened when there is no room left. -/
structure TooDeep where
  opened : Collection
  deriving DecidableEq, Repr

def Collection.name : Collection → String
  | array => "array"
  | object => "object"

def TooDeep.message (e : TooDeep) : String :=
  "maximum recursion depth exceeded while decoding a JSON " ++ e.opened.name ++
    " from a unicode string"

mutual

/-- The first collection that there is no room for when the value is read. -/
def overflow? : Json → Nat → Option TooDeep
  | arr _, 0 => some ⟨.array⟩
  | arr items, room + 1 => overflowItems? items room
  | obj _, 0 => some ⟨.object⟩
  | obj fields, room + 1 => overflowFields? fields room
  | _, _ => none

def overflowItems? : List Json → Nat → Option TooDeep
  | [], _ => none
  | v :: rest, room => overflow? v room <|> overflowItems? rest room

def overflowFields? : List (String × Json) → Nat → Option TooDeep
  | [], _ => none
  | (_, v) :: rest, room => overflow? v room <|> overflowFields? rest room

end

def within? (room : Nat) (v : Json) : Except TooDeep Json :=
  (v.overflow? room).elim (.ok v) .error

mutual

/-- How many members within one another lead to the innermost one. -/
def height : Json → Nat
  | arr items => heightItems items
  | obj fields => heightFields fields
  | _ => 0

def heightItems : List Json → Nat
  | [] => 0
  | v :: rest => max (height v + 1) (heightItems rest)

def heightFields : List (String × Json) → Nat
  | [] => 0
  | (_, v) :: rest => max (height v + 1) (heightFields rest)

end

def heightMessage : String :=
  "maximum recursion depth exceeded while getting the repr of an object"

/-- The value, if it is not too high for its text to be made. -/
def showable? {ε : Type} (room : Nat) (fault : ε) (v : Json) : Except ε Json :=
  if room < v.height then .error fault else .ok v

/-- The levels of nesting that a process has room for when it reads. The messages of a control plane
need three. -/
structure Room where
  levels : Nat
  three_le : 3 ≤ levels

def Room.usual : Room :=
  ⟨1000, by omega⟩

end Downlink.Json
