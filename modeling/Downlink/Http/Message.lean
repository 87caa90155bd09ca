import Downlink.Json.Reader
import Downlink.Json.Writer
import Downlink.Text.Blank

/-! # Messages

Requests and responses. A body that carries JSON holds the value itself, so it
arrives as it was sent; any other body holds what was sent and is read on
arrival.
-/

namespace Downlink.Http

inductive Payload where
  | absent
  | json (value : Json)
  | bytes (mediaType : Option String) (content : ByteArray)

structure Request where
  method : String
  target : String
  payload : Payload

def isAsciiBlank (c : Char) : Bool :=
  c.toNat < 0x80 && Text.isBlank c

/-- Parameters after a semicolon, blanks of ASCII and case do not matter. -/
def isJsonMediaType (mediaType : String) : Bool :=
  let name := Text.lower (String.ofList
    (Text.trimList isAsciiBlank (mediaType.toList.takeWhile (· != ';'))))
  name == "application/json" || (name.startsWith "application/" && name.endsWith "+json")

/-- The JSON value of a request, if its media type announces one and its body is one. It may be
nested too deep to be told. -/
def Payload.json? (room : Json.Room) : Payload → Except Json.TooDeep (Option Json)
  | absent => .ok none
  | json v => (v.within? room.levels).map some
  | bytes mediaType content =>
    if mediaType.any isJsonMediaType then
      match Json.readBytes? room.levels content with
      | .ok v => .ok (some v)
      | .error (.tooDeep fault) => .error fault
      | .error _ => .ok none
    else .ok none

inductive Body where
  | json (value : Json)
  | text (content : String)

def Body.json? (room : Json.Room) : Body → Except Json.ReadFault Json
  | json v => (v.within? room.levels).mapError .tooDeep
  | text s => Json.read? room.levels s

def Body.content : Body → String
  | json v => v.written ++ "\n"
  | text s => s

/-- A response; `location` is the target that a redirection leads to. -/
structure Response where
  status : Nat
  location : Option String
  body : Body

def Response.plain (status : Nat) (body : Body) : Response :=
  ⟨status, none, body⟩

end Downlink.Http
