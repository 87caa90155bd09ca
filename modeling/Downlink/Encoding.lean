import Downlink.Conflict
import Downlink.Ipv4.Parser
import Downlink.Json.Nesting
import Downlink.Ledger
import Downlink.Reservations

/-! # JSON encodings

Reservations, conflicts and snapshots as JSON objects, and reading them back.
Reading takes the fields one after the other and reports the first fault. A field
is read from its text, and there is room for the texts of values up to a height.
-/

namespace Downlink

namespace Encoding

/-- How high the value under a key may be for its text to be made. -/
abbrev Heights :=
  String → Nat

inductive FieldFault where
  | missing (key : String)
  | notAnObject (given : Json)
  | role (fault : UnknownRole)
  | address (fault : Ipv4.Fault)
  | tooHigh

def field? (given : Json) (key : String) : Except FieldFault Json :=
  match given with
  | .obj fields => (valueAt? key fields).elim (.error (.missing key)) .ok
  | v => .error (.notAnObject v)

/-- A field of which a text can be made. -/
def shownField? (room : Heights) (given : Json) (key : String) : Except FieldFault Json := do
  (← field? given key).showable? (room key) .tooHigh

def roleField? (room : Heights) (given : Json) : Except FieldFault Role := do
  (Role.ofJson? (← shownField? room given "role")).mapError .role

def FieldFault.message : FieldFault → String
  | missing key => Text.quoted key
  | notAnObject given =>
    match given with
    | .arr _ => "list indices must be integers or slices, not str"
    | .str _ => "string indices must be integers, not 'str'"
    | .null => "'NoneType' object is not subscriptable"
    | .bool _ => "'bool' object is not subscriptable"
    | .int _ => "'int' object is not subscriptable"
    | .float _ => "'float' object is not subscriptable"
    | .obj _ => "object"
  | role fault => fault.message
  | address fault => fault.message
  | tooHigh => Json.heightMessage

/-- What is wrong with a field is told in the words of its record, but a height is not. -/
def FieldFault.messageOf (words : String) : FieldFault → String
  | tooHigh => Json.heightMessage
  | f => words ++ f.message

end Encoding

open Encoding

namespace Reservation

structure Fault where
  cause : FieldFault

def toJson (r : Reservation) : Json :=
  .obj [("role", .str r.role.name), ("address", .str r.address.text),
    ("prefix", .str r.block.text)]

def ofJson? (room : Heights) (v : Json) : Except Fault Reservation := Except.mapError Fault.mk do
  let role ← roleField? room v
  let address ← (Ipv4.Interface.ofJson? (← shownField? room v "address")).mapError .address
  return ⟨role, address⟩

def Fault.message (f : Fault) : String :=
  f.cause.messageOf "Invalid reservation: "

end Reservation

namespace Conflict

structure Fault where
  cause : FieldFault

def toJson (c : Conflict) : Json :=
  .obj [("role", .str c.role.name), ("prefix", .str c.block.text), ("network_id", .str c.network)]

def ofJson? (room : Heights) (v : Json) : Except Fault Conflict := Except.mapError Fault.mk do
  let role ← roleField? room v
  let block ← (Ipv4.Block.ofJson? (← shownField? room v "prefix")).mapError .address
  let network ← shownField? room v "network_id"
  return ⟨role, block, network.text⟩

def Fault.message (f : Fault) : String :=
  f.cause.messageOf "Invalid conflict: "

end Conflict

namespace Snapshot

inductive Fault where
  | notAnObject
  | noNetwork
  | addressesNotAList
  | transport (fault : UnknownTransport)
  | tooHigh

def toJson (s : Snapshot) : Json :=
  .obj [("network_id", .str s.network), ("transport", .ofOption (s.transport.map Transport.name)),
    ("addresses", .ofStrings s.addresses)]

def textOf? (room : Heights) (key : String) (v : Json) : Except Fault String :=
  (v.showable? (room key) .tooHigh).map Json.text

/-- What names the network: `network` if that is true, else what the object has for a name. -/
def named? (network : Json) (fields : List (String × Json)) : Except Fault Json :=
  if network.isTruthy then .ok network
  else
    match valueAt? "network_id" fields with
    | some v => if v.isTruthy then .ok v else .error .noNetwork
    | none => .error .noNetwork

/-- Addresses that are not given or not true are none at all. -/
def addresses? (fields : List (String × Json)) : Except Fault (List Json) :=
  match valueAt? "addresses" fields with
  | none => .ok []
  | some (.arr items) => .ok items
  | some v => if v.isTruthy then .error .addressesNotAList else .ok []

def transport? (room : Heights) (v : Json) : Except Fault (Option Transport) := do
  (Transport.ofJson? (← v.showable? (room "transport") .tooHigh)).mapError .transport

def ofJson? (room : Heights) (v : Json) (network : Json) : Except Fault Snapshot :=
  match v with
  | .obj fields => do
    let named ← named? network fields
    let addresses ← addresses? fields
    let transport ← transport? room ((valueAt? "transport" fields).getD .null)
    return ⟨← textOf? room "network_id" named, transport,
      ← addresses.mapM (textOf? room "addresses")⟩
  | _ => .error .notAnObject

def Fault.message : Fault → String
  | notAnObject => "Upstream snapshot must be a JSON object"
  | noNetwork => "Upstream snapshot is missing 'network_id'"
  | addressesNotAList => "'addresses' must be a list"
  | transport fault => "Invalid upstream snapshot: " ++ fault.message
  | tooHigh => Json.heightMessage

end Snapshot

end Downlink
