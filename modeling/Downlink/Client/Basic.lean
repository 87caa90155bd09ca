import Downlink.Client.Exchange
import Downlink.Encoding

/-! # The client

The calls to a control plane and the reading of its replies. A call fails when
no reply comes, when the status says so, or when the body is not JSON; a body that
is nested too deep is a fault of its own.
-/

namespace Downlink

structure Client where
  base : String
  timeout : Json
  room : Json.Room

namespace Client

inductive Fault where
  | exhausted (message : String)
  | failed (task : String) (detail : Option String)
  | address (fault : Ipv4.Fault)
  | reservation (fault : Reservation.Fault)
  | conflict (fault : Conflict.Fault)
  | role (fault : UnknownRole)
  | tooManyDigits (fault : Text.TooManyDigits)
  | tooDeep (fault : Json.TooDeep)
  | noAddress
  | notAnObject
  | notIndexable
  | notIterable

/-- A client of the server at `url`; slashes at its end do not count. -/
def ofUrl (url : String) (timeout : Json) (room : Json.Room) : Client :=
  ⟨String.ofList ((url.toList.reverse.dropWhile (· == '/')).reverse), timeout, room⟩

def defaultTimeout : Json := .int 5

def isErrorStatus (status : Nat) : Bool :=
  400 ≤ status && status < 600

/-- The JSON value of a body; a number that is too long is a fault of its own. -/
def bodyValue? (room : Json.Room) (task : String) (body : Http.Body) : Except Fault Json :=
  (body.json? room).mapError fun
    | .malformed => .failed task none
    | .tooManyDigits fault => .tooManyDigits fault
    | .tooDeep fault => .tooDeep fault

/-- The JSON value of a reply that is not an error. -/
def value? (room : Json.Room) (task : String) : Reply → Except Fault Json
  | .unreachable => .error (.failed task none)
  | .answered status body =>
    if isErrorStatus status then .error (.failed task (some body.content))
    else bodyValue? room task body

/-- A field of an object, or `default` if it has none. -/
def field? (key : String) (default : Json) : Json → Except Fault Json
  | .obj fields => .ok ((valueAt? key fields).getD default)
  | _ => .error .notAnObject

def members? (v : Json) : Except Fault (List Json) :=
  (v.members?).elim (.error .notIterable) .ok

def addressTask : String := "Address request"

/-- Status 503 says that the pool is exhausted, in words of the server. -/
def readAddress (room : Json.Room) : Reply → Except Fault Ipv4.Interface
  | .answered 503 body => do
    let v ← bodyValue? room addressTask body
    throw (.exhausted (← field? "error" (.str "Address pool exhausted") v).text)
  | reply => do
    match ← value? room addressTask reply with
    | .obj fields =>
      match valueAt? "address" fields with
      | some v => (Ipv4.Interface.ofJson? v).mapError .address
      | none => throw .noAddress
    | _ => throw .notIndexable

/-- The height that the texts of what has been read may have. -/
def heights (c : Client) : Encoding.Heights :=
  fun _ => c.room.levels

def call (c : Client) (method path : String) (json : Option Json) : Call :=
  ⟨method, c.base ++ path, json, c.timeout⟩

def requestAddress (c : Client) (role : Role) (reuseLast : Json) :
    Exchange Fault Ipv4.Interface where
  call := c.call "POST" ("/downstreams/" ++ role.name) (some (.obj [("reuse_last", reuseLast)]))
  read := readAddress c.room

def release (c : Client) (role : Role) : Exchange Fault Bool where
  call := c.call "DELETE" ("/downstreams/" ++ role.name) none
  read reply := do
    return (← field? "released" .null (← value? c.room "Release" reply)).isTruthy

def reservations (c : Client) : Exchange Fault (List Reservation) where
  call := c.call "GET" "/downstreams" none
  read reply := do
    let v ← value? c.room "Listing reservations" reply
    let rows ← members? (← field? "reservations" (.arr []) v)
    rows.mapM fun row => (Reservation.ofJson? c.heights row).mapError .reservation

/-- Reports a network with addresses that are not looked at. -/
def report (c : Client) (network : Json) (transport : Option Transport) (addresses : List Json) :
    Exchange Fault (List Role) where
  call := c.call "PUT" ("/upstreams/" ++ network.text) (some (.obj [("network_id", network),
    ("transport", .ofOption (transport.map Transport.name)), ("addresses", .arr addresses)]))
  read reply := do
    let roles ← members? (← field? "conflicts" (.arr []) (← value? c.room "Upstream update" reply))
    roles.mapM fun role => (Role.ofJson? role).mapError .role

def reportUplink (c : Client) (s : Snapshot) : Exchange Fault (List Role) :=
  c.report (.str s.network) s.transport (s.addresses.map .str)

theorem call_reportUplink (c : Client) (s : Snapshot) :
    (c.reportUplink s).call = c.call "PUT" ("/upstreams/" ++ s.network) (some s.toJson) :=
  rfl

def removeUplink (c : Client) (network : String) : Exchange Fault Bool where
  call := c.call "DELETE" ("/upstreams/" ++ network) none
  read reply := do
    return (← field? "removed" .null (← value? c.room "Upstream removal" reply)).isTruthy

def uplinks (c : Client) : Exchange Fault Json where
  call := c.call "GET" "/upstreams" none
  read reply := do field? "upstreams" (.obj []) (← value? c.room "Listing upstreams" reply)

def drainConflicts (c : Client) : Exchange Fault (List Conflict) where
  call := c.call "GET" "/conflicts" none
  read reply := do
    let v ← value? c.room "Fetching conflicts" reply
    let rows ← members? (← field? "conflicts" (.arr []) v)
    rows.mapM fun row => (Conflict.ofJson? c.heights row).mapError .conflict

def Fault.message : Fault → String
  | exhausted message => message
  | failed task detail => task ++ " failed" ++ (detail.map (": " ++ ·)).getD ""
  | address fault => fault.message
  | reservation fault => fault.message
  | conflict fault => fault.message
  | role fault => fault.message
  | tooManyDigits fault => fault.message
  | tooDeep fault => fault.message
  | noAddress => Text.quoted "address"
  | notAnObject => "the reply is not an object"
  | notIndexable => "the reply has no fields"
  | notIterable => "the reply holds no list"

end Client

end Downlink
