import Downlink.Http.Message
import Downlink.Http.Url

/-! # Messages on the wire

The bytes of a request in the form of HTTP/1.0, and the response that some bytes
hold. The body of a response ends where the bytes end.
-/

namespace Downlink.Http

open Downlink.Text

/-- The host as a request names it, with the service unless it is the usual one. -/
def hostText (url : Url) : String :=
  let host := url.authority.host
  let written := if host.toList.contains ':' then "[" ++ host ++ "]" else host
  written ++ (url.authority.service.map fun n => ":" ++ toString n).getD ""

def requestText (host : String) (r : Request) : String :=
  let body := match r.payload with
    | .json v => v.written
    | _ => ""
  let header := if body.isEmpty then ""
    else "Content-Type: application/json\r\nContent-Length: " ++
      toString body.utf8ByteSize ++ "\r\n"
  r.method ++ " " ++ r.target ++ " HTTP/1.0\r\nHost: " ++ host ++ "\r\n" ++ header ++ "\r\n" ++ body

def afterHeader? : List UInt8 → Option (List UInt8)
  | 13 :: 10 :: 13 :: 10 :: rest => some rest
  | _ :: rest => afterHeader? rest
  | [] => none

def header? (name : String) (lines : List (List Char)) : Option (List Char) :=
  lines.findSome? fun line =>
    let key := line.takeWhile (· != ':')
    if lower (String.ofList key) = name then some (trimList isBlank (line.drop (key.length + 1)))
    else none

/-- The target of a location on the server itself. -/
def ownTarget? (host : String) (location : List Char) : Option String :=
  let base := "http://".toList ++ host.toList
  let rest := if base.isPrefixOf location then location.drop base.length else location
  if rest.head? = some '/' then some (String.ofList rest) else none

/-- Reads the response of a server that is addressed as `host`. -/
def response? (host : String) (bytes : List UInt8) : Option Response := do
  let body ← afterHeader? bytes
  let head := (decodeLossy (bytes.take (bytes.length - body.length))).toList
  let lines := splitList '\n' head
  let status ← match splitList ' ' ((lines.headD []).takeWhile (· != '\r')) with
    | _ :: code :: _ => if code.isEmpty || !code.all isDecimalDigit then none else some code
    | _ => none
  let location := (header? "location" (lines.drop 1)).bind (ownTarget? host)
  return ⟨decimalValue status, location, .text (decodeLossy body)⟩

end Downlink.Http
