import Downlink.CommandLine.Run
import Downlink.Http.Redirection
import Downlink.Http.Wire
import Std.Async.DNS
import Std.Async.TCP

/-! # The program

Runs one command. Calls go to the server over TCP; a call that cannot be made
gets no reply. The server is the one the environment names, if it names one.
-/

namespace Downlink

open Std Std.Async

partial def receive (socket : TCP.Socket.Client) (bytes : ByteArray) : Async ByteArray := do
  match ← socket.recv? 65536 with
  | some more => receive socket (bytes ++ more)
  | none => return bytes

def connectTo (host : String) (number : Nat) : Async TCP.Socket.Client := do
  for address in ← DNS.getAddrInfo host (toString number) (some .ipv4) do
    if let .v4 a := address then
      let socket ← TCP.Socket.Client.mk
      socket.connect (.v4 ⟨a, number.toUInt16⟩)
      return socket
  throw (IO.userError "the host has no address")

def transact (url : Http.Url) (request : Http.Request) : Async (Option Http.Response) := do
  let socket ← connectTo url.authority.host url.service
  let host := Http.hostText url
  socket.send (Http.requestText host request).toUTF8
  let bytes ← receive socket ByteArray.empty
  return Http.response? host bytes.toList

/-- One request and its answer; encrypted connections are not made. -/
def sendRequest (url : Http.Url) (request : Http.Request) : IO (Option Http.Response) := do
  if url.secure then return none
  try (transact url request).block catch _ => return none

def callServer (call : Call) : IO Reply := do
  match Http.Url.ofText? call.url, call.request? with
  | some url, some request =>
    match ← Http.follow (sendRequest url) Http.redirectionLimit request with
    | some response => return .answered response.status response.body
    | none => return .unreachable
  | _, _ => return .unreachable

def runProgram (args : List String) : IO UInt32 := do
  let url := (← IO.getEnv "TETHER_COORD_URL").getD CommandLine.defaultUrl
  let report ← (CommandLine.run .usual url args).answeredBy callServer
  IO.print report.output
  for (level, message) in report.log do
    IO.eprintln (level.name ++ ": " ++ message)
  match report.ending with
  | .exit code => return code.toUInt32
  | .broken fault =>
    IO.eprintln fault.message
    return 1

end Downlink

def main (args : List String) : IO UInt32 :=
  Downlink.runProgram args
